import Scaffold.Proofs.Evaluation
import Scaffold.Proofs.Related

/-!
# Where an else warns

An `else` that is reached warns exactly if no `if` stands directly in front of it in its section.

* `State.warnings`: how often the warning was written so far, by one part of the program.
* `Run.Quiet`: a computation that does not write it.
* `Run.QuietAt`: a block that is no `else` without an `if`, and no leaf that writes the warning.
* `Run.PairsElse`: what a walker does at an `else`, told from the entry in front of it alone.

"Reached" means that the entries before ended well and left the run uncancelled.

Results:
* **`runBlocks_append`**: blocks behind other blocks go on where those ended.
* `relates_quiet`: blocks write the warning only at an `else` that stands behind no `if`, or in a
  leaf.
* `pairsElse`: so every walker that respects a cancellation pairs as it should.
* **`walks_as_blocks`**: both interpreters do what the blocks of a section do, and both write the
  warning exactly where an `else` is reached that stands behind no `if`.
-/

namespace Scaffold

variable {W α β : Type}

/-! ## Counting warnings -/

/-- The warning about an `else` without an `if`, from one part of the program. -/
def Event.isWarning (o : Origin) : Event → Bool
  | .logged origin .warn message => origin == o && message == danglingElse
  | _ => false

/-- How often the warning was written so far. -/
def State.warnings (o : Origin) (s : State W) : Nat := s.world.events.countP (Event.isWarning o)

theorem State.warnings_note {o : Origin} {e : Event} (he : e.isWarning o = false) (s : State W) :
    (s.note e).warnings o = s.warnings o := by
  simp [State.warnings, State.note, he]

theorem Event.isWarning_of_ofEvaluation {o : Origin} (ho : o ≠ .shell) :
    ∀ {e : Event}, e.ofEvaluation = true → e.isWarning o = false
  | .evaluated _, _ | .assigned _ _, _ | .launched _, _ => rfl
  | .logged origin level message, h => by
    have horigin : origin = .shell := by simpa [Event.ofEvaluation] using h
    cases level <;> simp [Event.isWarning, horigin, ho.symm]

namespace Run

/-! ## Quiet computations -/

/-- A computation that does not write the warning. -/
def Quiet (o : Origin) (x : Run W α) : Prop := ∀ s, (x s).2.warnings o = s.warnings o

section Quiet

variable {o : Origin}

theorem Quiet.bind {x : Run W α} {f : α → Run W β} (hx : Quiet o x) (hf : ∀ a, Quiet o (f a)) :
    Quiet o (x >>= f) := by
  intro s
  have hs := hx s
  rcases hxs : x s with ⟨e | a, t⟩ <;> rw [hxs] at hs
  · rw [bind_of_error hxs]
    exact hs
  · rw [bind_of_ok hxs, hf a t]
    exact hs

theorem quiet_isCancelled : Quiet o (isCancelled : Run W Bool) := fun _ => rfl

/-- Evaluation writes its messages in the name of the shell. -/
theorem Evaluates.quiet {x : Run W α} (hx : Evaluates x) (ho : o ≠ .shell) : Quiet o x := by
  rintro ⟨c, w, cancelled, past⟩
  obtain ⟨new, hnew, r, c', w', hx⟩ := hx.added c w cancelled
  have hzero : new.countP (Event.isWarning o) = 0 :=
    List.countP_eq_zero.mpr fun e he => by
      rw [Event.isWarning_of_ofEvaluation ho (hnew e he)]
      decide
  rw [hx]
  simp only [State.warnings, List.countP_append, hzero, Nat.zero_add]

theorem quiet_rounds (ho : o ≠ .shell) {body : Run W (List α)} (hbody : Quiet o body)
    (stops : Bool) : ∀ bs, Quiet o (rounds stops body bs)
  | [] => fun _ => rfl
  | b :: rest => by
    refine ((evaluates_bindAll b).quiet ho).bind fun _ => hbody.bind fun _ =>
      quiet_isCancelled.bind fun _ => ?_
    split
    · exact fun _ => rfl
    · exact (quiet_rounds ho hbody stops rest).bind fun _ _ => rfl

end Quiet

/-! ## Orderly walkers -/

/-- A walker that speaks for a part of the program of its own and passes entries quietly, a run
that was cancelled staying so. -/
structure Orderly (p : Walker W α) : Prop where
  origin : p.origin ≠ .shell
  quiet : ∀ e, Quiet p.origin (p.skipped e)
  steady : ∀ e s, s.world.cancelled = true → (p.skipped e s).2.world.cancelled = true

theorem orderly_executor (env : Env W) (inner : Interpreter W) :
    Orderly (executor env inner) where
  origin := nofun
  quiet _ := State.warnings_note rfl
  steady _ _ := id

theorem orderly_collector (collect : Section → Run W (List Dependency)) :
    Orderly (collector collect) where
  origin := nofun
  quiet _ _ := rfl
  steady _ _ := id

section Blocks

variable {p : Walker W α} (host : Host W)

/-- A block that is no `else` without an `if`, and no leaf that writes the warning. -/
def QuietAt (p : Walker W α) : Block → Prop
  | .dangling _ => False
  | .leaf e => Quiet p.origin (p.leaf e)
  | _ => True

/-- Quietness goes through the constructs of a block. -/
theorem relates_quiet (h : Orderly p) :
    Relates host p p (QuietAt p) fun x _ => Quiet p.origin x where
  done _ := rfl
  assign _ := ((evaluates_assign host _ _).quiet h.origin).bind fun _ _ => rfl
  choose {_ _ _ _ _} _ _ hx hy := ((evaluates_condition host _).quiet h.origin).bind fun c => by
    split
    · exact hx
    · exact hy
  malformed _ _ _ := rfl
  warning hb := hb.elim
  loop _ hx := ((evaluates_expandLoop host _).quiet h.origin).bind fun bs =>
    quiet_rounds h.origin hx p.stopsLoops bs
  scope {labels _ _} hx s := hx (s.inScope labels)
  leaf hb := hb
  join hx hy := hx.bind fun _ => hy.bind fun _ _ => rfl
  reached {e _ _} hx := quiet_isCancelled.bind fun c => by
    split
    · exact (h.quiet e).bind fun _ _ => rfl
    · exact hx

/-! ## Blocks behind blocks -/

/-- What is reached and leaves the run uncancelled was carried out. -/
theorem carried_of_reached (h : Orderly p) {e : Entry} {x : Run W (List α)} {s t : State W}
    {a : List α} (hx : reached p e x s = (.ok a, t)) (ht : t.world.cancelled = false) :
    s.world.cancelled = false ∧ x s = (.ok a, t) := by
  rw [reached_apply] at hx
  cases hs : s.world.cancelled with
  | false => exact ⟨rfl, by simpa [hs] using hx⟩
  | true =>
    exfalso
    rw [if_pos hs, bind_apply] at hx
    have hst := h.steady e s hs
    rcases hk : p.skipped e s with ⟨f | _, u⟩ <;> rw [hk] at hx hst
    · cases hx
    · cases hx
      exact absurd (hst.symm.trans ht) (by decide)

/-- What is passed and leaves the run uncancelled was passed uncancelled. -/
theorem carried_of_passing (h : Orderly p) {f : Option Entry} {x : Run W (List α)} {s t : State W}
    {a : List α} (hx : passing p f x s = (.ok a, t)) (ht : t.world.cancelled = false) :
    x s = (.ok a, t) ∧ ∀ y, passing p f y s = y s := by
  cases f with
  | none => exact ⟨hx, fun _ => rfl⟩
  | some f =>
    obtain ⟨hs, hx⟩ := carried_of_reached h hx ht
    exact ⟨hx, fun y => by rw [passing, reached_apply, hs]; rfl⟩

theorem andThen_eq_ok {x y : Run W (List α)} {s t : State W} {c : List α}
    (h : andThen x y s = (.ok c, t)) :
    ∃ a u b, x s = (.ok a, u) ∧ y u = (.ok b, t) ∧ c = a ++ b := by
  unfold andThen at h
  rcases hx : x s with ⟨e | a, u⟩
  · rw [bind_of_error hx] at h
    cases h
  · rw [bind_of_ok hx] at h
    rcases hy : y u with ⟨e | b, v⟩
    · rw [bind_of_error hy] at h
      cases h
    · rw [bind_of_ok hy] at h
      cases h
      exact ⟨a, u, b, rfl, hy, rfl⟩

theorem andThen_of_ok {x : Run W (List α)} {s t : State W} {a : List α} (h : x s = (.ok a, t))
    (y : Run W (List α)) : andThen x y s = ((a ++ ·) <$> y) t := by
  rw [andThen, bind_of_ok h, map_eq_pure_bind]

/-- **Blocks behind other blocks** go on where those ended, if they left the run uncancelled. -/
theorem runBlocks_append (h : Orderly p) (cs : List Block) :
    ∀ {bs s t a}, runBlocks host p bs s = (.ok a, t) → t.world.cancelled = false →
      runBlocks host p (bs ++ cs) s = ((a ++ ·) <$> runBlocks host p cs) t
  | [], s, t, a, hb, ht => by
    rw [runBlocks_nil] at hb
    cases hb
    exact (congrFun (id_map (runBlocks host p cs)) s).symm
  | b :: rest, s, t, a, hb, ht => by
    rw [runBlocks_cons] at hb
    obtain ⟨hs, hb⟩ := carried_of_reached h hb ht
    obtain ⟨a₁, u, a₂, hx, hy, rfl⟩ := andThen_eq_ok hb
    obtain ⟨hy, hpass⟩ := carried_of_passing h hy ht
    have hrest := runBlocks_append h cs hy ht
    rw [List.cons_append, runBlocks_cons, reached_apply, hs]
    refine (andThen_of_ok hx _).trans ?_
    rw [map_apply, hpass, hrest, map_apply, map_apply]
    rcases runBlocks host p cs t with ⟨_ | c, v⟩
    · rfl
    · simp only [Except.map, List.append_assoc]

end Blocks

/-! ## What a walker does at an else -/

/-- The body of an entry, as a walker carries it out. -/
def branch (host : Host W) (p : Walker W α) (e : Entry) : Run W (List α) :=
  bodyOrFail (e.body.map (walk host p false))

/-- What a walker does at an `else` that it reaches, told from the entry in front of it alone, and
that it warns nowhere else. -/
structure PairsElse (host : Host W) (p : Walker W α) : Prop where
  /-- Behind anything but an `if`, it writes the warning and goes on. -/
  dangling : ∀ {before : Section} {e : Entry} (after : Section) {s t : State W} {a : List α},
    e.tag = "else" → before.endsInIf = false →
    walk host p false before s = (.ok a, t) → t.world.cancelled = false →
      walk host p false (before ++ e :: after) s =
        ((a ++ ·) <$> walk host p false after) (t.note (.logged p.origin .warn danglingElse))
  /-- Behind an `if`, it is one of two branches, of which exactly one is run, without a warning. -/
  fused : ∀ {before : Section} {i e : Entry} (after : Section) {s t : State W} {a : List α},
    Construct.ofTag i.tag = .cond → e.tag = "else" →
    walk host p false before s = (.ok a, t) → t.world.cancelled = false →
      walk host p false (before ++ i :: e :: after) s =
        ((a ++ ·) <$> andThen (choose host i.tag (branch host p i) (branch host p e))
          (reached p e (walk host p false after))) t
  /-- A section without an `else` that stands behind no `if`, at any depth, gives no warning but
  those of its leaves. -/
  quiet : ∀ {sec : Section}, (∀ b ∈ sec.blocks, b.All (QuietAt p)) →
    Quiet p.origin (walk host p false sec)

theorem branch_eq_runBody (host : Host W) (p : Walker W α) (e : Entry) :
    branch host p e = runBody host p e.blocks :=
  bodyOrFail_goesByBlocks fun b _ => walk_eq_runBlocks host p b

/-- **Every orderly walker** pairs an `else` with the `if` in front of it, and with nothing else. -/
theorem pairsElse (host : Host W) {p : Walker W α} (h : Orderly p) : PairsElse host p where
  dangling {before e} after s t a he hbefore hw ht := by
    rw [walk_eq_runBlocks] at hw ⊢
    have hwarn : runBlock host p (.dangling e) t =
        (.ok [], t.note (.logged p.origin .warn danglingElse)) := by
      rw [runBlock]
      rfl
    have hrest : runBlocks host p (.dangling e :: after.blocks) t =
        runBlocks host p after.blocks (t.note (.logged p.origin .warn danglingElse)) := by
      rw [runBlocks_cons, reached_apply, if_neg (by rw [ht]; decide), andThen_of_ok hwarn]
      exact congrFun (id_map (runBlocks host p after.blocks)) _
    rw [Section.blocks_append_dangling after hbefore he, runBlocks_append host h _ hw ht,
      walk_eq_runBlocks, map_apply, map_apply, hrest]
  fused {before i e} after s t a hi he hw ht := by
    rw [walk_eq_runBlocks] at hw ⊢
    have hpair : runBlocks host p (.fused i i.blocks e e.blocks :: after.blocks) t =
        andThen (choose host i.tag (branch host p i) (branch host p e))
          (reached p e (walk host p false after)) t := by
      rw [runBlocks_cons, reached_apply, if_neg (by rw [ht]; decide), branch_eq_runBody,
        branch_eq_runBody, walk_eq_runBlocks host p after, runBlock]
      rfl
    rw [Section.blocks_append_fused before after hi he, runBlocks_append host h _ hw ht, map_apply,
      map_apply, hpair]
  quiet {sec} hq := by
    rw [walk_eq_runBlocks]
    exact relates_runBlocks (relates_quiet host h) _ hq

end Run

/-- **A walk pairs** every `else` as a section read into blocks does: running a section, to any
depth of re-entries, and collecting its dependencies do the same to every state, with the same
result, as running its blocks. Of the `else` entries that are reached, both warn exactly about those
that do not stand behind an `if`. -/
theorem walks_as_blocks (env : Env W) :
    (∀ depth sec, Run.runSection env depth sec = Run.runSectionInBlocks env depth sec) ∧
      (∀ sec, Run.dependencies env.host sec = Run.dependenciesInBlocks env.host sec) ∧
      (∀ depth, Run.PairsElse env.host (Run.executor env (Run.interpreter env depth))) ∧
      ∀ depth, Run.PairsElse env.host (Run.collector (Run.collect env.host depth)) :=
  ⟨fun depth sec => congrFun (Run.runSection_eq_inBlocks env depth) sec,
    fun sec => congrFun (Run.dependencies_eq_inBlocks env.host) sec,
    fun _ => Run.pairsElse env.host (Run.orderly_executor env _),
    fun _ => Run.pairsElse env.host (Run.orderly_collector _)⟩

end Scaffold
