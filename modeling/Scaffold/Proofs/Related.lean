import Scaffold.Proofs.Blocks

/-!
# Two walkers side by side

What two walkers have to do with each other on the same section is a relation between computations.
If the control steps and the leaves of the section are so related, and the relation goes through the
ways in which they are put together, then so are the walks. A property of one walker is the case of
a relation that looks at one side only.

* `Section.nested`: the entries of a section at every depth.
* `Block.All`: what holds of a block and of all blocks in its bodies.
* `Run.Relates`: a relation on computations that goes through the constructs of a block.
* `Run.Compositional`: a relation on computations of any type that goes through sequencing.

Results:
* `all_blocks`: what holds of all entries of a section holds all through its blocks.
* **`relates_runBlocks`**: by recursion on the blocks, running them is related.
* **`relates_walk`**: so walks of one section are related.
* **`Compositional.relates`**: a relation that goes through sequencing goes through the constructs.
* `relates_walkEntry`: one entry of a walk, whatever its bodies are and the rest of the walk is.
-/

namespace Scaffold

variable {W α β : Type}

/-! ## Entries at every depth -/

/-- The entries of a section and of all bodies in it, each followed by those of its body. -/
def Section.nested (s : Section) : List Entry :=
  match s with
  | [] => []
  | e :: rest =>
    let inner : List Entry :=
      if (Construct.ofTag e.tag).hasBody then
        match _h : e.body with
        | .ok b => Section.nested b
        | .error _ => []
      else []
    e :: (inner ++ Section.nested rest)
termination_by Section.size s
decreasing_by
  · have := Entry.size_body_lt _h
    simp only [Section.size_cons]
    omega
  · simp only [Section.size_cons, Entry.size]
    omega

namespace Section

theorem nested_nil : nested [] = [] := by rw [nested]

theorem nested_cons (e : Entry) (rest : Section) :
    nested (e :: rest) =
      e :: ((if (Construct.ofTag e.tag).hasBody then
        match e.body with
        | .ok b => nested b
        | .error _ => []
      else []) ++ nested rest) := by
  rw [nested]
  congr 2
  split
  · split <;> rename_i h <;> rw [h]
  · rfl

theorem mem_nested_head (e : Entry) (rest : Section) : e ∈ nested (e :: rest) := by
  rw [nested_cons]
  exact List.mem_cons_self

theorem mem_nested_rest {f : Entry} (e : Entry) {rest : Section} (h : f ∈ nested rest) :
    f ∈ nested (e :: rest) := by
  rw [nested_cons]
  exact List.mem_cons_of_mem _ (List.mem_append_right _ h)

theorem mem_nested_body {e f : Entry} {b : Section} (rest : Section)
    (he : (Construct.ofTag e.tag).hasBody = true) (hb : e.body = .ok b) (h : f ∈ nested b) :
    f ∈ nested (e :: rest) := by
  rw [nested_cons, if_pos he, hb]
  exact List.mem_cons_of_mem _ (List.mem_append_left _ h)

end Section

/-! ## What holds all through a block -/

/-- The bodies of a block. -/
def Block.bodies : Block → List Body
  | .choice _ b | .loop _ b | .scope _ b => [b]
  | .fused _ b _ c => [b, c]
  | .assign _ | .dangling _ | .leaf _ => []

/-- What holds of a block and of all blocks in its bodies. -/
inductive Block.All (P : Block → Prop) : Block → Prop
  | intro {b : Block} : P b →
      (∀ bs, Body.ofBlocks bs ∈ b.bodies → ∀ c ∈ bs, Block.All P c) → Block.All P b

theorem Block.All.here {P : Block → Prop} {b : Block} : b.All P → P b
  | .intro h _ => h

theorem Block.All.inner {P : Block → Prop} {b : Block} {bs : List Block} (h : b.All P)
    (hb : Body.ofBlocks bs ∈ b.bodies) : ∀ c ∈ bs, c.All P := by
  cases h with
  | intro _ h => exact h bs hb

/-- A block is what an entry with a given property, or two, are read into. -/
def Block.Reads (E : Entry → Prop) : Block → Prop
  | .assign e => Construct.ofTag e.tag = .assign ∧ E e
  | .choice e b => Construct.ofTag e.tag = .cond ∧ E e ∧ b = e.blocks
  | .fused e b f c =>
    (Construct.ofTag e.tag = .cond ∧ E e ∧ b = e.blocks) ∧ f.tag = "else" ∧ E f ∧ c = f.blocks
  | .dangling e => Construct.ofTag e.tag = .otherwise ∧ E e
  | .loop e b => Construct.ofTag e.tag = .loop ∧ E e ∧ b = e.blocks
  | .scope e b => Construct.ofTag e.tag = .scope ∧ E e ∧ b = e.blocks
  | .leaf e => Construct.ofTag e.tag = .command ∧ E e

/-- What a block that reads entries with a property has, its first entry has. -/
theorem Block.Reads.first {E : Entry → Prop} : ∀ {b : Block}, b.Reads E → E b.first
  | .assign _, h | .dangling _, h | .leaf _, h => h.2
  | .choice _ _, h | .loop _ _, h | .scope _ _, h => h.2.1
  | .fused _ _ _ _, h => h.1.2.1

theorem Entry.body_of_blocks {e : Entry} {bs : List Block} (h : Body.ofBlocks bs = e.blocks) :
    ∃ b, e.body = .ok b ∧ bs = Section.blocks b := by
  unfold Entry.blocks at h
  rcases hb : e.body with x | b <;> rw [hb] at h <;> cases h
  exact ⟨b, rfl, rfl⟩

theorem Entry.body_of_malformed {e : Entry} {x : SyntaxError} (h : Body.malformed x = e.blocks) :
    e.body = .error x := by
  unfold Entry.blocks at h
  rcases hb : e.body with x | b <;> rw [hb] at h <;> cases h
  rfl

/-- A body that a block cannot carry out belongs to an entry whose argument is no section. -/
theorem Block.Reads.malformed {E : Entry → Prop} {x : SyntaxError} : ∀ {b : Block}, b.Reads E →
    Body.malformed x ∈ b.bodies →
      ∃ e, E e ∧ (Construct.ofTag e.tag).hasBody = true ∧ e.body = .error x
  | .choice e b, h, hx | .loop e b, h, hx | .scope e b, h, hx => by
    obtain ⟨hc, he, rfl⟩ := h
    exact ⟨e, he, by rw [hc]; rfl, Entry.body_of_malformed (List.mem_singleton.mp hx)⟩
  | .fused e b f c, h, hx => by
    obtain ⟨⟨hc, he, rfl⟩, hf, hE, rfl⟩ := h
    rcases List.mem_cons.mp hx with hx | hx
    · exact ⟨e, he, by rw [hc]; rfl, Entry.body_of_malformed hx⟩
    · exact ⟨f, hE, by rw [hf]; decide, Entry.body_of_malformed (List.mem_singleton.mp hx)⟩

/-- What holds all through the blocks of a section holds in the body that is read from it. -/
theorem Entry.all_blocks {P : Block → Prop} {e : Entry}
    (h : ∀ b, e.body = .ok b → ∀ c ∈ Section.blocks b, c.All P) {bs : List Block}
    (hbs : Body.ofBlocks bs = e.blocks) : ∀ c ∈ bs, c.All P := by
  obtain ⟨b, hb, rfl⟩ := Entry.body_of_blocks hbs
  exact h b hb

/-- A block with one body. -/
theorem Block.All.single {P : Block → Prop} {b : Block} {body : Body} (hb : b.bodies = [body])
    (here : P b) (h : ∀ bs, Body.ofBlocks bs = body → ∀ c ∈ bs, c.All P) : b.All P :=
  .intro here fun bs hbs => h bs (List.mem_singleton.mp (hb ▸ hbs))

/-- **What holds of all entries** of a section holds all through its blocks. -/
theorem all_blocks {E : Entry → Prop} (sec : Section) (h : ∀ e ∈ sec.nested, E e) :
    ∀ b ∈ sec.blocks, b.All (Block.Reads E) := by
  match sec with
  | [] =>
    rw [Section.blocks_nil]
    nofun
  | e :: rest =>
    have he : E e := h e (Section.mem_nested_head e rest)
    have hrest : ∀ f ∈ Section.nested rest, E f := fun f hf => h f (Section.mem_nested_rest e hf)
    have htail := all_blocks rest hrest
    have hinner : (Construct.ofTag e.tag).hasBody = true →
        ∀ bs, Body.ofBlocks bs = e.blocks → ∀ c ∈ bs, c.All (Block.Reads E) := fun hc _ =>
      Entry.all_blocks fun b hb => all_blocks b fun f hf =>
        h f (Section.mem_nested_body rest hc hb hf)
    rw [Section.blocks_cons]
    cases hc : Construct.ofTag e.tag with
    | assign => exact List.forall_mem_cons.mpr ⟨.intro ⟨hc, he⟩ nofun, htail⟩
    | otherwise => exact List.forall_mem_cons.mpr ⟨.intro ⟨hc, he⟩ nofun, htail⟩
    | command => exact List.forall_mem_cons.mpr ⟨.intro ⟨hc, he⟩ nofun, htail⟩
    | loop =>
      have hbody := hinner (by rw [hc]; rfl)
      exact List.forall_mem_cons.mpr ⟨.single rfl ⟨hc, he, rfl⟩ hbody, htail⟩
    | scope =>
      have hbody := hinner (by rw [hc]; rfl)
      exact List.forall_mem_cons.mpr ⟨.single rfl ⟨hc, he, rfl⟩ hbody, htail⟩
    | cond =>
      have hbody := hinner (by rw [hc]; rfl)
      cases hr : rest with
      | nil =>
        refine List.forall_mem_cons.mpr ⟨.single rfl ⟨hc, he, rfl⟩ hbody, ?_⟩
        nofun
      | cons f tail =>
        rw [hr] at hrest htail
        dsimp only
        split
        · -- the next entry is the other branch, and the blocks go on behind it
          rename_i hf
          have hother : ∀ bs, Body.ofBlocks bs = f.blocks → ∀ c ∈ bs, c.All (Block.Reads E) :=
            fun _ => Entry.all_blocks fun b hb => all_blocks b fun g hg =>
              hrest g (Section.mem_nested_body tail (by rw [hf]; decide) hb hg)
          have hbehind := all_blocks tail fun g hg => hrest g (Section.mem_nested_rest f hg)
          refine List.forall_mem_cons.mpr ⟨.intro ?_ fun bs hbs => ?_, hbehind⟩
          · exact ⟨⟨hc, he, rfl⟩, hf, hrest f (Section.mem_nested_head f tail), rfl⟩
          · rcases List.mem_cons.mp hbs with hbs | hbs
            · exact hbody bs hbs
            · exact hother bs (List.mem_singleton.mp hbs)
        · exact List.forall_mem_cons.mpr ⟨.single rfl ⟨hc, he, rfl⟩ hbody, htail⟩
termination_by Section.size sec
decreasing_by
  · simp only [Section.size_cons, Entry.size]
    omega
  · have := Entry.size_body_lt hb
    simp only [Section.size_cons]
    omega
  · have := Entry.size_body_lt hb
    simp only [hr, Section.size_cons]
    omega
  · simp only [hr, Section.size_cons, Entry.size]
    omega

/-- Whether a block chooses between two branches. -/
def Block.Branches : Block → Prop
  | .choice _ _ | .fused _ _ _ _ => True
  | _ => False

namespace Run

/-! ## Relations on computations -/

/-- A computation between a change of the context and another. -/
def between (push pop : Context → Context) (x : Run W α) : Run W α := fun s =>
  let (r, t) := x { s with context := push s.context }
  (r, { t with context := pop t.context })

theorem withScope_eq_between (labels : List String) (x : Run W α) :
    withScope labels x = between (fun c => { c with scopes := c.scopes ++ [labels] })
      (fun c => { c with scopes := c.scopes.dropLast }) x := rfl

theorem withFiles_eq_between (files : FileTable) (x : Run W α) :
    withFiles files x = between (fun c => { c with files := c.files ++ [files] })
      (fun c => { c with files := c.files.dropLast }) x := rfl

/-- What a relation between the computations of two walkers must go through, for blocks that
satisfy `P`. -/
structure Relates (host : Host W) (p : Walker W α) (q : Walker W β) (P : Block → Prop)
    (R : Run W (List α) → Run W (List β) → Prop) : Prop where
  done : R (pure []) (pure [])
  assign : ∀ {e}, P (.assign e) →
    R (do assign host e.tag e.argument; return []) (do assign host e.tag e.argument; return [])
  choose : ∀ {b x x' y y'}, P b → b.Branches → R x x' → R y y' →
    R (choose host b.first.tag x y) (choose host b.first.tag x' y')
  malformed : ∀ {b x}, P b → .malformed x ∈ b.bodies →
    R (fail (.syntaxFault x)) (fail (.syntaxFault x))
  warning : ∀ {e}, P (.dangling e) → R (do log p.origin .warn danglingElse; return [])
    (do log q.origin .warn danglingElse; return [])
  loop : ∀ {e b x x'}, P (.loop e b) → R x x' →
    R (expandLoop host e.tag >>= rounds p.stopsLoops x)
      (expandLoop host e.tag >>= rounds q.stopsLoops x')
  scope : ∀ {labels x x'}, R x x' → R (withScope labels x) (withScope labels x')
  leaf : ∀ {e}, P (.leaf e) → R (p.leaf e) (q.leaf e)
  join : ∀ {x x' y y'}, R x x' → R y y' → R (andThen x y) (andThen x' y')
  reached : ∀ {e x x'}, R x x' → R (reached p e x) (reached q e x')

section Blocks

variable {host : Host W} {p : Walker W α} {q : Walker W β} {P : Block → Prop}
variable {R : Run W (List α) → Run W (List β) → Prop}

/-- A relation that goes through all blocks goes through some of them. -/
theorem Relates.mono {P' : Block → Prop} (h : Relates host p q P R) (hP : ∀ b, P' b → P b) :
    Relates host p q P' R where
  done := h.done
  assign hb := h.assign (hP _ hb)
  choose hb := h.choose (hP _ hb)
  malformed hb := h.malformed (hP _ hb)
  warning hb := h.warning (hP _ hb)
  loop hb := h.loop (hP _ hb)
  scope := h.scope
  leaf hb := h.leaf (hP _ hb)
  join := h.join
  reached := h.reached

mutual

theorem relates_runBlock (h : Relates host p q P R) :
    ∀ b : Block, b.All P → R (runBlock host p b) (runBlock host q b)
  | .assign e, hb => by
    rw [runBlock, runBlock]
    exact h.assign hb.here
  | .choice e b, hb => by
    rw [runBlock, runBlock]
    exact h.choose (b := .choice e b) hb.here trivial
      (relates_runBody h b hb List.mem_cons_self) h.done
  | .fused e b f c, hb => by
    rw [runBlock, runBlock]
    exact h.choose (b := .fused e b f c) hb.here trivial
      (relates_runBody h b hb List.mem_cons_self)
      (relates_runBody h c hb (List.mem_cons_of_mem _ List.mem_cons_self))
  | .dangling e, hb => by
    rw [runBlock, runBlock]
    exact h.warning hb.here
  | .loop e (.malformed x), hb => by
    rw [runBlock, runBlock]
    exact h.malformed hb.here List.mem_cons_self
  | .loop e (.ofBlocks bs), hb => by
    rw [runBlock, runBlock]
    exact h.loop hb.here (relates_runBlocks h bs (hb.inner List.mem_cons_self))
  | .scope e (.malformed x), hb => by
    rw [runBlock, runBlock]
    exact h.malformed hb.here List.mem_cons_self
  | .scope e (.ofBlocks bs), hb => by
    rw [runBlock, runBlock]
    exact h.scope (relates_runBlocks h bs (hb.inner List.mem_cons_self))
  | .leaf e, hb => by
    rw [runBlock, runBlock]
    exact h.leaf hb.here

theorem relates_runBody (h : Relates host p q P R) :
    ∀ (b : Body) {c : Block}, c.All P → b ∈ c.bodies → R (runBody host p b) (runBody host q b)
  | .malformed x, _, hc, hb => by
    rw [runBody, runBody]
    exact h.malformed hc.here hb
  | .ofBlocks bs, _, hc, hb => by
    rw [runBody, runBody]
    exact relates_runBlocks h bs (hc.inner hb)

/-- **Running blocks** is related if what they are made of is. -/
theorem relates_runBlocks (h : Relates host p q P R) :
    ∀ bs : List Block, (∀ b ∈ bs, b.All P) → R (runBlocks host p bs) (runBlocks host q bs)
  | [], _ => by
    rw [runBlocks_nil, runBlocks_nil]
    exact h.done
  | b :: rest, hb => by
    have hrest := relates_runBlocks h rest fun c hc => hb c (List.mem_cons_of_mem _ hc)
    have hpass : R (passing p b.second? (runBlocks host p rest))
        (passing q b.second? (runBlocks host q rest)) := by
      cases b.second? with
      | none => exact hrest
      | some f => exact h.reached hrest
    rw [runBlocks_cons, runBlocks_cons]
    exact h.reached (h.join (relates_runBlock h b (hb b List.mem_cons_self)) hpass)

end

/-- **Walks of one section** are related if what its entries are made of is. -/
theorem relates_walk {E : Entry → Prop} (h : Relates host p q (Block.Reads E) R) {sec : Section}
    (hsec : ∀ e ∈ sec.nested, E e) : R (walk host p false sec) (walk host q false sec) := by
  rw [walk_eq_runBlocks, walk_eq_runBlocks]
  exact relates_runBlocks h _ (all_blocks sec hsec)

/-- Walks of any section are related if all that a section can be made of is. -/
theorem relates_anyWalk (h : Relates host p q (fun _ => True) R) (sec : Section) :
    R (walk host p false sec) (walk host q false sec) :=
  relates_walk (E := fun _ => True) (h.mono fun _ _ => trivial) fun _ _ => trivial

/-! ## Relations that go through sequencing -/

/-- A relation between computations of one type, at every type, that goes through sequencing and
scopes, and in which each step of a walk that evaluates nothing is related to itself. -/
structure Compositional (R : ∀ γ : Type, Run W γ → Run W γ → Prop) : Prop where
  value : ∀ {γ : Type} (c : γ), R γ (pure c) (pure c)
  sequence : ∀ {γ δ : Type} {x y : Run W γ} {f g : γ → Run W δ}, R γ x y →
    (∀ c, R δ (f c) (g c)) → R δ (x >>= f) (y >>= g)
  scope : ∀ {γ : Type} {x y : Run W γ} (labels : List String), R γ x y →
    R γ (withScope labels x) (withScope labels y)
  bindings : ∀ b, R Unit (bindAll b) (bindAll b)
  cancelled : R Bool isCancelled isCancelled
  message : ∀ o l m, R Unit (log o l m) (log o l m)

/-- What such a relation must hold of besides, if a walker is to be related to the one with other
leaves: the evaluations in blocks that satisfy `P`, and what the walkers do by themselves. -/
structure Parts (host : Host W) (p : Walker W α) (leaf : Entry → Run W (List α))
    (P : Block → Prop) (R : ∀ γ : Type, Run W γ → Run W γ → Prop) : Prop where
  assign : ∀ {e}, P (.assign e) →
    R Unit (assign host e.tag e.argument) (assign host e.tag e.argument)
  condition : ∀ {b}, P b → b.Branches →
    R Bool (condition host b.first.tag) (condition host b.first.tag)
  rounds : ∀ {e b}, P (.loop e b) →
    R (List Bindings) (expandLoop host e.tag) (expandLoop host e.tag)
  malformed : ∀ {b x}, P b → .malformed x ∈ b.bodies →
    R (List α) (fail (.syntaxFault x)) (fail (.syntaxFault x))
  leaf : ∀ {e}, P (.leaf e) → R (List α) (p.leaf e) (leaf e)
  skipped : ∀ e, R Unit (p.skipped e) (p.skipped e)

namespace Compositional

variable {R : ∀ γ : Type, Run W γ → Run W γ → Prop} (h : Compositional R)

include h

theorem andThen {x x' y y' : Run W (List α)} (hx : R _ x x') (hy : R _ y y') :
    R _ (andThen x y) (andThen x' y') :=
  h.sequence hx fun _ => h.sequence hy fun _ => h.value _

theorem rounds {x y : Run W (List α)} (hx : R _ x y) (stops : Bool) :
    ∀ bs, R _ (rounds stops x bs) (rounds stops y bs)
  | [] => h.value []
  | b :: rest => by
    refine h.sequence (h.bindings b) fun _ => h.sequence hx fun here =>
      h.sequence h.cancelled fun _ => ?_
    split
    · exact h.value here
    · exact h.sequence (rounds hx stops rest) fun _ => h.value _

/-- **A relation that goes through sequencing** goes through the constructs of a block. -/
theorem relates {p : Walker W α} {leaf : Entry → Run W (List α)} {P : Block → Prop}
    (hp : Parts host p leaf P R) : Relates host p { p with leaf } P (R (List α)) where
  done := h.value []
  assign hb := h.sequence (hp.assign hb) fun _ => h.value []
  choose hb hbranch hx hy := h.sequence (hp.condition hb hbranch) fun holds => by
    split
    · exact hx
    · exact hy
  malformed := hp.malformed
  warning _ := h.sequence (h.message _ _ _) fun _ => h.value []
  loop hb hx := h.sequence (hp.rounds hb) fun bs => h.rounds hx _ bs
  scope hx := h.scope _ hx
  leaf := hp.leaf
  join := h.andThen
  reached {e _ _} hx := h.sequence h.cancelled fun _ => by
    split
    · exact h.sequence (hp.skipped e) fun _ => h.value []
    · exact hx

end Compositional

/-! ## One entry -/

/-- Two bodies that are related, or that are no sections for the same reason. -/
inductive BodyRel (R : Run W (List α) → Run W (List β) → Prop) :
    Except SyntaxError (Run W (List α)) → Except SyntaxError (Run W (List β)) → Prop
  | ok {x : Run W (List α)} {y : Run W (List β)} : R x y → BodyRel R (.ok x) (.ok y)
  | error (e : SyntaxError) : BodyRel R (.error e) (.error e)

theorem bodyRel_map {f : Section → Run W (List α)} {g : Section → Run W (List β)}
    {body : Except SyntaxError Section} (h : ∀ b, body = .ok b → R (f b) (g b)) :
    BodyRel R (body.map f) (body.map g) := by
  cases body with
  | error e => exact .error e
  | ok b => exact .ok (h b rfl)

theorem alternative_rel {f : Section → Run W (List α)} {g : Section → Run W (List β)}
    (rest : Section) (h : ∀ e tail b, rest = e :: tail → e.body = .ok b → R (f b) (g b)) :
    Option.Rel (BodyRel R) (alternative f rest) (alternative g rest) := by
  cases rest with
  | nil => exact .none
  | cons e tail =>
    rw [alternative, alternative]
    split
    · exact .some (bodyRel_map fun b hb => h e tail b rfl hb)
    · exact .none

/-- **One entry** of a walk is related if its bodies and the rest of the walk are, whatever these
are. -/
theorem relates_walkEntry (h : Relates host p q (fun _ => True) R) {paired : Bool} {e : Entry}
    {body : Except SyntaxError (Run W (List α))} {body' : Except SyntaxError (Run W (List β))}
    {other : Option (Except SyntaxError (Run W (List α)))}
    {other' : Option (Except SyntaxError (Run W (List β)))}
    {next : Bool → Run W (List α)} {next' : Bool → Run W (List β)}
    (hbody : BodyRel R body body') (hother : Option.Rel (BodyRel R) other other')
    (hnext : ∀ paired, R (next paired) (next' paired)) :
    R (walkEntry host p paired e body other next)
      (walkEntry host q paired e body' other' next') := by
  have hfail : ∀ x, R (fail (.syntaxFault x)) (fail (.syntaxFault x)) := fun x =>
    h.malformed (b := .choice e (.malformed x)) trivial List.mem_cons_self
  have hrun : ∀ {x x'}, BodyRel R x x' → R (bodyOrFail x) (bodyOrFail x') := by
    rintro _ _ (hx | x)
    · exact hx
    · exact hfail x
  have hchoose : ∀ {x x' y y'}, R x x' → R y y' →
      R (choose host e.tag x y) (choose host e.tag x' y') := fun hx hy =>
    h.choose (b := .choice e (.ofBlocks [])) trivial trivial hx hy
  -- each construct is what its block does, and then the rest
  unfold walkEntry
  cases Construct.ofTag e.tag with
  | assign =>
    have := h.join (h.assign (e := e) trivial) (hnext paired)
    simpa only [andThen_bind, andThen_nothing] using this
  | cond =>
    cases hother with
    | none =>
      have := h.join (hchoose (hrun hbody) h.done) (hnext false)
      simpa only [choose, andThen_bind, andThen_ite, andThen_nothing, Option.isSome] using this
    | some halt =>
      have := h.join (hchoose (hrun hbody) (hrun halt)) (hnext true)
      simpa only [choose, andThen_bind, andThen_ite, Option.isSome] using this
  | otherwise =>
    cases paired with
    | true => exact hnext false
    | false =>
      have := h.join (h.warning (e := e) trivial) (hnext false)
      simpa only [andThen_bind, andThen_nothing, Bool.not_false, if_true] using this
  | loop =>
    cases hbody with
    | error x => exact hfail x
    | ok hx =>
      have := h.join (h.loop (e := e) (b := .ofBlocks []) trivial hx) (hnext paired)
      simpa only [andThen_bind] using this
  | scope =>
    cases hbody with
    | error x => exact hfail x
    | ok hx => exact h.join (h.scope hx) (hnext paired)
  | command => exact h.join (h.leaf trivial) (hnext paired)

end Blocks

end Run

end Scaffold
