import Scaffold.Proofs.Command

/-!
# Sections as blocks

A walk goes through a flat list of entries. It pairs an `else` with the `if` in front of it by
looking one entry ahead and carrying a flag behind it. Here a section is first read into a tree of
blocks, in which every `if` that an `else` stands directly behind is one block with it, and the tree
is run by recursion on the tree, without a flag and without looking ahead.

* `Section.blocks`: the blocks of a section, with the bodies of its entries read into blocks in
  turn.
* `Run.runBlocks`: what blocks do, for any walker. An `else` that is not fused with an `if` is a
  block of its own, which only warns; of two fused branches exactly one is run.
* `Run.interpreterInBlocks`, `Run.runSectionInBlocks`, `Run.dependenciesInBlocks`: running a section
  and collecting its dependencies by blocks, in the section itself and in all those that it calls.

Cancellation is noticed before each entry, so also at the `else` of a fused pair, behind its branch.

Results:
* `blocks_append_dangling`, `blocks_append_fused`: which block an `else` belongs to depends on
  nothing but the entry in front of it.
* **`walk_eq_runBlocks`**: walking a section is running its blocks.
* `interpreter_eq_inBlocks`, `dependencies_eq_inBlocks`: so both interpreters do what the blocks do.
-/

namespace Scaffold

variable {W α : Type}

/-! ## Blocks -/

mutual

/-- An entry with its body, or an `if` together with the `else` behind it. -/
inductive Block where
  | assign (e : Entry)
  | choice (e : Entry) (body : Body)
  | fused (e : Entry) (body : Body) (f : Entry) (other : Body)
  | dangling (e : Entry)
  | loop (e : Entry) (body : Body)
  | scope (e : Entry) (body : Body)
  | leaf (e : Entry)

/-- The argument of an entry: the blocks it is read into, or why it is no section. -/
inductive Body where
  | malformed (x : SyntaxError)
  | ofBlocks (bs : List Block)

end

/-- The entry that a block starts with. -/
def Block.first : Block → Entry
  | .assign e | .choice e _ | .fused e _ _ _ | .dangling e | .loop e _ | .scope e _ | .leaf e => e

/-- The `else` that is part of a block. -/
def Block.second? : Block → Option Entry
  | .fused _ _ f _ => some f
  | _ => none

/-- The blocks of a section: an `if` is fused with an `else` directly behind it. -/
def Section.blocks (s : Section) : List Block :=
  match s with
  | [] => []
  | e :: rest =>
    let body : Body := match _h : e.body with
      | .ok b => .ofBlocks (Section.blocks b)
      | .error x => .malformed x
    match Construct.ofTag e.tag with
    | .assign => .assign e :: Section.blocks rest
    | .cond =>
      match rest with
      | [] => [.choice e body]
      | f :: tail =>
        if f.tag = "else" then
          let other : Body := match _h : f.body with
            | .ok b => .ofBlocks (Section.blocks b)
            | .error x => .malformed x
          .fused e body f other :: Section.blocks tail
        else .choice e body :: Section.blocks (f :: tail)
    | .otherwise => .dangling e :: Section.blocks rest
    | .loop => .loop e body :: Section.blocks rest
    | .scope => .scope e body :: Section.blocks rest
    | .command => .leaf e :: Section.blocks rest
termination_by Section.size s
decreasing_by
  · have := Entry.size_body_lt _h
    simp only [Section.size_cons]
    omega
  · simp only [Section.size_cons, Entry.size]
    omega
  · have := Entry.size_body_lt _h
    simp only [Section.size_cons]
    omega
  · simp only [Section.size_cons, Entry.size]
    omega
  all_goals
    simp only [Section.size_cons, Entry.size]
    omega

/-- The argument of an entry, read into blocks. -/
def Entry.blocks (e : Entry) : Body :=
  match e.body with
  | .ok b => .ofBlocks b.blocks
  | .error x => .malformed x

namespace Section

theorem blocks_nil : blocks [] = [] := by rw [blocks]

theorem blocks_cons (e : Entry) (rest : Section) :
    blocks (e :: rest) =
      match Construct.ofTag e.tag with
      | .assign => .assign e :: blocks rest
      | .cond =>
        match rest with
        | [] => [.choice e e.blocks]
        | f :: tail =>
          if f.tag = "else" then .fused e e.blocks f f.blocks :: blocks tail
          else .choice e e.blocks :: blocks (f :: tail)
      | .otherwise => .dangling e :: blocks rest
      | .loop => .loop e e.blocks :: blocks rest
      | .scope => .scope e e.blocks :: blocks rest
      | .command => .leaf e :: blocks rest := by
  have hbody : ∀ e : Entry, (match _h : e.body with
      | .ok b => Body.ofBlocks (blocks b)
      | .error x => .malformed x) = e.blocks := by
    intro e
    unfold Entry.blocks
    split <;> rename_i h <;> rw [h]
  rw [blocks.eq_def (e :: rest)]
  simp only [hbody]
  cases rest <;> rfl

/-- Whether the last entry of a section is an `if`. -/
def endsInIf (s : Section) : Bool :=
  s.getLast?.any fun e => Construct.ofTag e.tag == .cond

theorem endsInIf_of_cons {e : Entry} {s : Section} (h : endsInIf (e :: s) = false) :
    endsInIf s = false := by
  cases s with
  | nil => rfl
  | cons f s => simpa [endsInIf, List.getLast?_cons_cons] using h

/-- Sections side by side are read side by side, unless an `if` at the end of the first is fused
with an `else` at the front of the second. -/
theorem blocks_append {before : Section} {e : Entry} (after : Section)
    (h : endsInIf before = false ∨ e.tag ≠ "else") :
    blocks (before ++ e :: after) = blocks before ++ blocks (e :: after) := by
  match before with
  | [] => rw [blocks_nil]; rfl
  | d :: rest =>
    have htail : blocks (rest ++ e :: after) = blocks rest ++ blocks (e :: after) :=
      blocks_append after (h.imp_left endsInIf_of_cons)
    rw [List.cons_append, blocks_cons, blocks_cons]
    cases hd : Construct.ofTag d.tag with
    | cond =>
      cases rest with
      | nil =>
        have he : e.tag ≠ "else" := h.resolve_left (by simp [endsInIf, hd])
        simp [he]
      | cons f tail =>
        by_cases hf : f.tag = "else"
        · have : blocks (tail ++ e :: after) = blocks tail ++ blocks (e :: after) :=
            blocks_append after (h.imp_left fun h => endsInIf_of_cons (endsInIf_of_cons h))
          simp [hf, this]
        · simpa [hf] using htail
    | _ => simp [htail]
termination_by before.length

/-- An `else` behind no `if` is a block of its own. -/
theorem blocks_append_dangling {before : Section} {e : Entry} (after : Section)
    (hb : endsInIf before = false) (he : e.tag = "else") :
    blocks (before ++ e :: after) = blocks before ++ .dangling e :: blocks after := by
  have hc : Construct.ofTag e.tag = .otherwise := by rw [he]; decide
  rw [blocks_append after (.inl hb), blocks_cons, hc]

/-- An `else` behind an `if` is in one block with it. -/
theorem blocks_append_fused {i e : Entry} (before after : Section)
    (hi : Construct.ofTag i.tag = .cond) (he : e.tag = "else") :
    blocks (before ++ i :: e :: after) =
      blocks before ++ .fused i i.blocks e e.blocks :: blocks after := by
  have hne : i.tag ≠ "else" := by
    intro h
    rw [h] at hi
    exact absurd hi (by decide)
  rw [blocks_append _ (.inr hne), blocks_cons, hi]
  simp [he]

end Section

/-! ## Running blocks -/

namespace Run

section Interpreter

variable (host : Host W) (p : Walker W α)

/-- Go on at an entry, unless the run was cancelled. -/
def reached (e : Entry) (x : Run W (List α)) : Run W (List α) := do
  if ← isCancelled then
    p.skipped e
    return []
  else x

/-- Go on behind a block, past the `else` that is part of it. -/
def passing (f : Option Entry) (x : Run W (List α)) : Run W (List α) :=
  match f with
  | none => x
  | some f => reached p f x

/-- Carry out one of two branches. -/
def choose (tag : String) (x y : Run W (List α)) : Run W (List α) := do
  if ← condition host tag then x else y

mutual

/-- Carry out one block. -/
def runBlock : Block → Run W (List α)
  | .assign e => do
    assign host e.tag e.argument
    return []
  | .choice e body => choose host e.tag (runBody body) (pure [])
  | .fused e body _ other => choose host e.tag (runBody body) (runBody other)
  | .dangling _ => do
    log p.origin .warn danglingElse
    return []
  | .loop e body =>
    match body with
    | .malformed x => fail (.syntaxFault x)
    | .ofBlocks bs => do
      let bindings ← expandLoop host e.tag
      rounds p.stopsLoops (runBlocks bs) bindings
  | .scope e body =>
    match body with
    | .malformed x => fail (.syntaxFault x)
    | .ofBlocks bs => withScope (scopeLabels e.tag) (runBlocks bs)
  | .leaf e => p.leaf e

/-- Carry out a body. -/
def runBody : Body → Run W (List α)
  | .malformed x => fail (.syntaxFault x)
  | .ofBlocks bs => runBlocks bs

/-- Carry out blocks in order. -/
def runBlocks : List Block → Run W (List α)
  | [] => pure []
  | b :: rest =>
    reached p b.first (andThen (runBlock b) (passing p b.second? (runBlocks rest)))

end

-- the equations of the blocks, made once for all proofs on them
attribute [simp] runBlock runBody runBlocks

/-! ## A walk runs the blocks -/

theorem andThen_bind {β : Type} (x : Run W β) (f : β → Run W (List α)) (y : Run W (List α)) :
    andThen (x >>= f) y = x >>= fun a => andThen (f a) y := by
  simp only [andThen, bind_assoc]

theorem andThen_nothing (y : Run W (List α)) : andThen (pure []) y = y := by
  simp [andThen]

theorem andThen_ite (c : Prop) [Decidable c] (x y z : Run W (List α)) :
    andThen (if c then x else y) z = if c then andThen x z else andThen y z := by
  split <;> rfl

theorem reached_apply (e : Entry) (x : Run W (List α)) (s : State W) :
    reached p e x s =
      if s.world.cancelled then (do p.skipped e; return []) s else x s := by
  rw [reached, isCancelled_bind]
  split <;> rfl

theorem runBlocks_nil : runBlocks host p [] = pure [] := by rw [runBlocks]

theorem runBlocks_cons (b : Block) (rest : List Block) :
    runBlocks host p (b :: rest) =
      reached p b.first
        (andThen (runBlock host p b) (passing p b.second? (runBlocks host p rest))) := by
  rw [runBlocks]

/-- The bodies of an entry, walked by `go`, do what its blocks do. -/
def GoesByBlocks (go : Section → Run W (List α)) (e : Entry) : Prop :=
  ∀ b, e.body = .ok b → go b = runBlocks host p b.blocks

variable {host p}

theorem bodyOrFail_goesByBlocks {go : Section → Run W (List α)} {e : Entry}
    (h : GoesByBlocks host p go e) :
    bodyOrFail (e.body.map go) = runBody host p e.blocks := by
  unfold Entry.blocks
  rcases hb : e.body with x | b
  · rw [runBody]
    rfl
  · rw [runBody, ← h b hb]
    rfl

section Entries

variable {paired : Bool} {e f : Entry} {go : Section → Run W (List α)}
variable {other : Option (Except SyntaxError (Run W (List α)))} {next : Bool → Run W (List α)}

theorem walkEntry_assign (hc : Construct.ofTag e.tag = .assign) :
    walkEntry host p paired e (e.body.map go) other next =
      andThen (runBlock host p (.assign e)) (next paired) := by
  unfold walkEntry
  simp only [hc]
  rw [runBlock, andThen_bind]
  simp only [andThen_nothing]

theorem walkEntry_choice (hc : Construct.ofTag e.tag = .cond) (h : GoesByBlocks host p go e) :
    walkEntry host p paired e (e.body.map go) none next =
      andThen (runBlock host p (.choice e e.blocks)) (next false) := by
  unfold walkEntry
  simp only [hc, bodyOrFail_goesByBlocks h]
  rw [runBlock, choose, andThen_bind]
  simp only [andThen_ite, andThen_nothing, Option.isSome]

theorem walkEntry_fused (hc : Construct.ofTag e.tag = .cond) (h : GoesByBlocks host p go e)
    (h' : GoesByBlocks host p go f) :
    walkEntry host p paired e (e.body.map go) (some (f.body.map go)) next =
      andThen (runBlock host p (.fused e e.blocks f f.blocks)) (next true) := by
  unfold walkEntry
  simp only [hc, bodyOrFail_goesByBlocks h, bodyOrFail_goesByBlocks h']
  rw [runBlock, choose, andThen_bind]
  simp only [andThen_ite, Option.isSome]

theorem walkEntry_dangling (hc : Construct.ofTag e.tag = .otherwise) :
    walkEntry host p false e (e.body.map go) other next =
      andThen (runBlock host p (.dangling e)) (next false) := by
  unfold walkEntry
  simp only [hc]
  rw [runBlock, andThen_bind]
  simp only [andThen_nothing]
  exact if_pos rfl

theorem walkEntry_loop (hc : Construct.ofTag e.tag = .loop) (h : GoesByBlocks host p go e) :
    walkEntry host p paired e (e.body.map go) other next =
      andThen (runBlock host p (.loop e e.blocks)) (next paired) := by
  unfold walkEntry Entry.blocks
  simp only [hc]
  rcases hb : e.body with x | b
  · rw [runBlock]
    rfl
  · rw [runBlock, andThen_bind, ← h b hb]
    rfl

theorem walkEntry_scope (hc : Construct.ofTag e.tag = .scope) (h : GoesByBlocks host p go e) :
    walkEntry host p paired e (e.body.map go) other next =
      andThen (runBlock host p (.scope e e.blocks)) (next paired) := by
  unfold walkEntry Entry.blocks
  simp only [hc]
  rcases hb : e.body with x | b
  · rw [runBlock]
    rfl
  · rw [runBlock, ← h b hb]
    rfl

theorem walkEntry_leaf (hc : Construct.ofTag e.tag = .command) :
    walkEntry host p paired e (e.body.map go) other next =
      andThen (runBlock host p (.leaf e)) (next paired) := by
  unfold walkEntry
  simp only [hc]
  rw [runBlock]

end Entries

variable (host p)

/-- The `else` of an `if` already done is only passed. -/
theorem walk_of_else {f : Entry} (hf : f.tag = "else") (tail : Section) :
    walk host p true (f :: tail) = reached p f (walk host p false tail) := by
  have hc : Construct.ofTag f.tag = .otherwise := by rw [hf]; decide
  rw [walk_cons, reached]
  refine bind_congr fun cancelled => ?_
  cases cancelled with
  | false =>
    rw [if_neg Bool.false_ne_true, if_neg Bool.false_ne_true]
    unfold walkEntry
    simp only [hc]
    exact if_neg (by decide)
  | true => rw [if_pos rfl, if_pos rfl]

/-- A walk at its first entry. -/
theorem walk_cons_reached (paired : Bool) (e : Entry) (rest : Section) :
    walk host p paired (e :: rest) =
      reached p e (walkEntry host p paired e (e.body.map (walk host p false))
        (alternative (walk host p false) rest) fun paired => walk host p paired rest) := by
  rw [walk_cons, reached]

/-- **Walking a section** is running its blocks. The induction is on the nesting measure; behind a
fused pair it goes on two entries further. -/
theorem walk_eq_runBlocks (sec : Section) :
    walk host p false sec = runBlocks host p (Section.blocks sec) := by
  match sec with
  | [] => rw [walk_nil, Section.blocks_nil, runBlocks_nil]
  | e :: rest =>
    have hbody : GoesByBlocks host p (walk host p false) e := fun b hb => walk_eq_runBlocks b
    have hrest : walk host p false rest = runBlocks host p (Section.blocks rest) :=
      walk_eq_runBlocks rest
    rw [walk_cons_reached, Section.blocks_cons]
    cases hc : Construct.ofTag e.tag with
    | assign => rw [walkEntry_assign hc, runBlocks_cons, hrest]; rfl
    | cond =>
      cases rest with
      | nil =>
        rw [alternative, walkEntry_choice hc hbody, runBlocks_cons, walk_nil, runBlocks_nil]; rfl
      | cons f tail =>
        dsimp only
        by_cases hf : f.tag = "else"
        · have hother : GoesByBlocks host p (walk host p false) f := fun b hb => walk_eq_runBlocks b
          rw [alternative, if_pos hf, if_pos hf, walkEntry_fused hc hbody hother, runBlocks_cons,
            walk_of_else host p hf, walk_eq_runBlocks tail]
          rfl
        · rw [alternative, if_neg hf, if_neg hf, walkEntry_choice hc hbody, runBlocks_cons, hrest]
          rfl
    | otherwise => rw [walkEntry_dangling hc, runBlocks_cons, hrest]; rfl
    | loop => rw [walkEntry_loop hc hbody, runBlocks_cons, hrest]; rfl
    | scope => rw [walkEntry_scope hc hbody, runBlocks_cons, hrest]; rfl
    | command => rw [walkEntry_leaf hc, runBlocks_cons, hrest]; rfl
termination_by Section.size sec
decreasing_by
  · have := Entry.size_body_lt hb
    simp only [Section.size_cons]
    omega
  · simp only [Section.size_cons, Entry.size]
    omega
  · have := Entry.size_body_lt hb
    simp only [Section.size_cons]
    omega
  · simp only [Section.size_cons, Entry.size]
    omega

end Interpreter

/-! ## Both interpreters -/

/-- The interpreter that runs sections by their blocks, also those that are re-entered. -/
def interpreterInBlocks (env : Env W) : (depth : Nat) → Interpreter W
  | 0 => interpreter env 0
  | depth + 1 =>
    let inner := interpreterInBlocks env depth
    { around env inner with
      runSection := fun s => do let _ ← runBlocks env.host (executor env inner) s.blocks }

/-- Run a section by its blocks, and so every section that it re-enters. -/
def runSectionInBlocks (env : Env W) (depth : Nat) : Section → Run W Unit :=
  (interpreterInBlocks env depth).runSection

theorem interpreter_eq_inBlocks (env : Env W) :
    ∀ depth, interpreter env depth = interpreterInBlocks env depth
  | 0 => rfl
  | depth + 1 => by
    rw [interpreter, interpreterInBlocks, interpreter_eq_inBlocks env depth, around]
    simp only [walk_eq_runBlocks]

theorem runSection_eq_inBlocks (env : Env W) (depth : Nat) :
    runSection env depth = runSectionInBlocks env depth := by
  rw [runSection, runSectionInBlocks, interpreter_eq_inBlocks]

section Dependencies

variable (host : Host W)

/-- Collect the dependencies of a section by its blocks, and so those of every section it calls. -/
def collectInBlocks : (depth : Nat) → Section → Run W (List Dependency)
  | 0, _ => exhausted
  | depth + 1, s => runBlocks host (collector (collectInBlocks depth)) s.blocks

/-- The dependencies that a section declares, by its blocks. -/
def dependenciesInBlocks (s : Section) : Run W (List Dependency) :=
  collectInBlocks host (maxCalls + 1) s

theorem collect_eq_inBlocks : ∀ depth, collect host depth = collectInBlocks host depth
  | 0 => rfl
  | depth + 1 => by
    funext sec
    rw [collect, collectInBlocks, walk_eq_runBlocks, collect_eq_inBlocks depth]

theorem dependencies_eq_inBlocks : dependencies host = dependenciesInBlocks host := by
  funext sec
  rw [dependencies, dependenciesInBlocks, collect_eq_inBlocks]

end Dependencies

end Run

end Scaffold
