import Scaffold.Proofs.Cancellation
import Scaffold.Proofs.History

/-!
# Unknown entries

A script can hold entries of a kind that the program does not know yet. Such an entry is skipped
with a warning, so a script with one does what the script does without it, whatever the place it
stands in: only between an `if` and its `else` it would part the two.

A run that is cancelled names the entry that it stops at. Where it stops at the unknown entry, it
names that, in place of the entry behind it; at the end of a section it says nothing without it.

* `Inserted u behind`: a section, and the section with one entry more in it, at any depth, in front
  of the entry `behind`, or at the end.
* `Padded`: a history, and the history with some events more, and some in place of others.
* `Run.Absorbs`: a walker that does nothing at an entry but add such events.

Results:
* **`relates_of_inserted`**: an entry can be inserted anywhere if it can be in front of a section.
* `absorbs_executor`, `absorbs_collector`: runs, and collecting, absorb unknown entries.
* `twin_runSection`, `twinRunning_runSection`: so a run with the entry goes as the one without, and
  but for a warning says the same, if it is not cancelled.
* **`unknown_transparent`**: so unknown entries are transparent.
-/

namespace Scaffold

variable {W α : Type}

/-! ## One entry more -/

/-- A section, and the section with the entry `u` inserted: behind some of its entries, or in the
body of one of its control constructs. The entry in front of which it stands there is `behind`, if
there is one. It is not inserted between an `if` and its `else`. -/
inductive Inserted (u : Entry) (behind : Option Entry) : Section → Section → Prop
  | here (before after : Section) (front : after.head? = behind)
      (apart : before.endsInIf = false ∨ ∀ f ∈ behind, f.tag ≠ "else") :
      Inserted u behind (before ++ after) (before ++ u :: after)
  | inside (before after : Section) {b b' : Section} {e e' : Entry} (tag : e'.tag = e.tag)
      (control : (Construct.ofTag e.tag).hasBody = true) (body : e.body = .ok b)
      (body' : e'.body = .ok b') (inner : Inserted u behind b b') :
      Inserted u behind (before ++ e :: after) (before ++ e' :: after)

/-- A history, latest first, and one with some events more, and with some in place of others. -/
inductive Padded (own : Event → Prop) (instead : Event → Event → Prop) :
    List Event → List Event → Prop
  | nil : Padded own instead [] []
  | same (e : Event) {es es' : List Event} (h : Padded own instead es es') :
      Padded own instead (e :: es) (e :: es')
  | more {e : Event} {es es' : List Event} (he : own e) (h : Padded own instead es es') :
      Padded own instead es (e :: es')
  | other {e e' : Event} {es es' : List Event} (he : instead e e') (h : Padded own instead es es') :
      Padded own instead (e :: es) (e' :: es')

namespace Padded

variable {own : Event → Prop} {instead : Event → Event → Prop} {es es' : List Event}

theorem refl : ∀ es, Padded own instead es es
  | [] => .nil
  | e :: es => .same e (refl es)

theorem kept : Extends (Padded own instead) := fun e _ _ h => .same e h

/-- Events of which none is added, or replaced, are the same. -/
theorem filter_eq {p : Event → Bool} (hown : ∀ e, own e → p e = false)
    (hinstead : ∀ e e', instead e e' → p e = false ∧ p e' = false) (h : Padded own instead es es') :
    es'.filter p = es.filter p := by
  induction h with
  | nil => rfl
  | same e _ ih => rw [List.filter_cons, List.filter_cons, ih]
  | more he _ ih => rw [List.filter_cons, hown _ he, if_neg Bool.false_ne_true, ih]
  | other he _ ih =>
    obtain ⟨hl, hr⟩ := hinstead _ _ he
    rw [List.filter_cons, List.filter_cons, hl, hr, if_neg Bool.false_ne_true,
      if_neg Bool.false_ne_true, ih]

/-- So many events of a kind that none of the added is of, and that is replaced by its own kind. -/
theorem countP_eq {p : Event → Bool} (hown : ∀ e, own e → p e = false)
    (hinstead : ∀ e e', instead e e' → p e' = p e) (h : Padded own instead es es') :
    es'.countP p = es.countP p := by
  induction h with
  | nil => rfl
  | same e _ ih => rw [List.countP_cons, List.countP_cons, ih]
  | more he _ ih => rw [List.countP_cons, hown _ he, if_neg Bool.false_ne_true, ih, Nat.add_zero]
  | other he _ ih => rw [List.countP_cons, List.countP_cons, hinstead _ _ he, ih]

end Padded

namespace Run

/-! ## Walks with one entry more -/

section Walks

variable {host : Host W} {p : Walker W α} {u : Entry} {behind : Option Entry}

section Entries

variable {paired : Bool} {body : Except SyntaxError (Run W (List α))}
variable {other : Option (Except SyntaxError (Run W (List α)))}
variable {next : Bool → Run W (List α)} {e e' : Entry}

/-- Of an entry with a body, a walk reads the tag besides. -/
theorem walkEntry_of_tag (htag : e'.tag = e.tag)
    (hc : (Construct.ofTag e.tag).hasBody = true) :
    walkEntry host p paired e' body other next = walkEntry host p paired e body other next := by
  unfold walkEntry
  rw [htag]
  cases h : Construct.ofTag e.tag with
  | assign | command =>
    rw [h] at hc
    cases hc
  | _ => rfl

/-- Only an `if` reads whether there is another branch. -/
theorem walkEntry_of_ne_cond (other' : Option (Except SyntaxError (Run W (List α))))
    (hc : Construct.ofTag e.tag ≠ .cond) :
    walkEntry host p paired e body other next = walkEntry host p paired e body other' next := by
  unfold walkEntry
  cases h : Construct.ofTag e.tag with
  | cond => exact absurd h hc
  | _ => rfl

end Entries

section Related

variable {R : Run W (List α) → Run W (List α) → Prop} (hrel : Relates host p p (fun _ => True) R)

include hrel

/-- The walk of a body is related to itself. -/
theorem relates_body (e : Entry) :
    BodyRel R (e.body.map (walk host p false)) (e.body.map (walk host p false)) :=
  bodyRel_map fun b _ => relates_anyWalk hrel b

/-- The walk of the other branch is related to itself. -/
theorem relates_alternative (rest : Section) : Option.Rel (BodyRel R)
    (alternative (walk host p false) rest) (alternative (walk host p false) rest) :=
  alternative_rel rest fun _ _ b _ _ => relates_anyWalk hrel b

/-- A walk is related to itself, also where it goes on behind an `if`. -/
theorem relates_walkOn : ∀ (sec : Section) (paired : Bool),
    R (walk host p paired sec) (walk host p paired sec)
  | [], paired => by
    rw [walk_nil]
    exact hrel.done
  | e :: rest, paired => by
    rw [walk_cons_reached]
    exact hrel.reached (relates_walkEntry hrel (relates_body hrel e) (relates_alternative hrel rest)
      (relates_walkOn rest))

/-- An entry that can be inserted in front of some entries, behind others. The induction is on
these; an `if` among them has the same `else`, as the entry does not come between the two. -/
theorem relates_behind (hu : Construct.ofTag u.tag = .command) {after : Section}
    (hfront : ∀ paired, R (walk host p paired after) (walk host p paired (u :: after))) :
    ∀ {before : Section} (paired : Bool),
      (before.endsInIf = false ∨ ∀ f ∈ after.head?, f.tag ≠ "else") →
        R (walk host p paired (before ++ after)) (walk host p paired (before ++ u :: after))
  | [], paired, _ => hfront paired
  | f :: before, paired, apart => by
    have hnext : ∀ paired, R (walk host p paired (before ++ after))
        (walk host p paired (before ++ u :: after)) := fun paired =>
      relates_behind hu hfront paired (apart.imp_left Section.endsInIf_of_cons)
    have hentry : ∀ {other other'}, Option.Rel (BodyRel R) other other' →
        R (walkEntry host p paired f (f.body.map (walk host p false)) other
            fun paired => walk host p paired (before ++ after))
          (walkEntry host p paired f (f.body.map (walk host p false)) other'
            fun paired => walk host p paired (before ++ u :: after)) := fun hother =>
      relates_walkEntry hrel (relates_body hrel f) hother hnext
    rw [List.cons_append, List.cons_append, walk_cons_reached, walk_cons_reached]
    refine hrel.reached ?_
    cases before with
    | cons g before =>
      exact hentry (relates_alternative hrel (g :: (before ++ after)))
    | nil =>
      have hne : u.tag ≠ "else" := fun he => by
        rw [he] at hu
        exact absurd hu (by decide)
      have hnone : alternative (walk host p false) (u :: after) = none := if_neg hne
      rw [List.nil_append, List.nil_append, hnone]
      by_cases hf : Construct.ofTag f.tag = .cond
      · have hafter : ∀ g ∈ after.head?, g.tag ≠ "else" :=
          apart.resolve_left (by simp [Section.endsInIf, hf])
        rw [alternative_eq_none hafter]
        exact hentry .none
      · rw [walkEntry_of_ne_cond none hf]
        exact hentry .none

variable (htag : ∀ e e' : Entry, e'.tag = e.tag → p.skipped e' = p.skipped e)

include htag

/-- A body in which an entry is inserted, behind some entries of a section. -/
theorem relates_inside {e e' : Entry} {b b' after : Section} (hsame : e'.tag = e.tag)
    (hcontrol : (Construct.ofTag e.tag).hasBody = true) (hb : e.body = .ok b)
    (hb' : e'.body = .ok b') (hinner : R (walk host p false b) (walk host p false b')) :
    ∀ (before : Section) (paired : Bool),
      R (walk host p paired (before ++ e :: after)) (walk host p paired (before ++ e' :: after))
  | [], paired => by
    have hreached : reached p e' = reached p e := by
      funext x
      rw [reached, reached, htag e e' hsame]
    rw [List.nil_append, List.nil_append, walk_cons_reached, walk_cons_reached,
      walkEntry_of_tag hsame hcontrol, hb, hb', hreached]
    exact hrel.reached (relates_walkEntry hrel (.ok hinner) (relates_alternative hrel after)
      (relates_walkOn hrel after))
  | f :: before, paired => by
    rw [List.cons_append, List.cons_append, walk_cons_reached, walk_cons_reached]
    refine hrel.reached (relates_walkEntry hrel (relates_body hrel f) ?_
      (relates_inside hsame hcontrol hb hb' hinner before))
    cases before with
    | cons g before =>
      exact relates_alternative hrel (g :: (before ++ e :: after))
    | nil =>
      rw [List.nil_append, List.nil_append, alternative, alternative, hsame, hb, hb']
      split
      · exact .some (.ok hinner)
      · exact .none

/-- **An entry** can be inserted anywhere if it can be inserted in front of a section. -/
theorem relates_of_inserted (hu : Construct.ofTag u.tag = .command)
    (hfront : ∀ after : Section, after.head? = behind → ∀ paired,
      R (walk host p paired after) (walk host p paired (u :: after))) {sec sec' : Section}
    (hins : Inserted u behind sec sec') : R (walk host p false sec) (walk host p false sec') := by
  induction hins with
  | here before after front apart =>
    exact relates_behind hrel hu (hfront after front) false (front ▸ apart)
  | inside before after hsame hcontrol hb hb' _ ih =>
    exact relates_inside hrel htag hsame hcontrol hb hb' ih before false

end Related

variable {L : List Event → List Event → Prop}

/-- A walker that only adds events at an entry that it comes to, and where it stops at the entry in
place of going on, or in place of stopping at the one behind it. -/
structure Absorbs (L : List Event → List Event → Prop) (p : Walker W α) (u : Entry)
    (behind : Option Entry) : Prop where
  leaf : Twin L (pure []) (p.leaf u)
  ended : behind = none → Twin L (pure ()) (p.skipped u)
  passed : ∀ f ∈ behind, Twin L (p.skipped f) (p.skipped u)

/-- An entry that is absorbed, in front of a section. -/
theorem twin_front (hL : Extends L) (hrel : Relates host p p (fun _ => True) (Twin L))
    (hu : Construct.ofTag u.tag = .command) (habsorbs : Absorbs L p u behind) (after : Section)
    (hbehind : after.head? = behind) (paired : Bool) :
    Twin L (walk host p paired after) (walk host p paired (u :: after)) := by
  intro s t hst
  rcases hk : s.world.cancelled with _ | _
  · have ht : t.world.cancelled = false := hst.cancelled.trans hk
    have hdone : Twin L (andThen (pure []) (walk host p paired after))
        (andThen (p.leaf u) (walk host p paired after)) :=
      (compositional_twin hL).andThen habsorbs.leaf (relates_walkOn hrel after paired)
    rw [andThen_nothing] at hdone
    rw [walk_cons_of_command host p paired after hu ht]
    exact hdone s t hst
  · have ht : t.world.cancelled = true := hst.cancelled.trans hk
    rw [walk_cons_of_cancelled host p paired u after ht]
    cases after with
    | nil =>
      rw [walk_nil]
      exact ((habsorbs.ended hbehind.symm).bind fun _ => twin_pure []) s t hst
    | cons e rest =>
      rw [walk_cons_of_cancelled host p paired e rest hk]
      exact ((habsorbs.passed e hbehind.symm).bind fun _ => twin_pure []) s t hst

/-- An entry that adds events where the walk comes to it, in front of a section. Where the walk
stops at it, the run is cancelled. -/
theorem twinRunning_front (hL : Extends L)
    (hrel : Relates host p p (fun _ => True) (TwinRunning L))
    (hu : Construct.ofTag u.tag = .command) (hleaf : TwinRunning L (pure []) (p.leaf u))
    (hskip : TwinRunning L (p.skipped u) (p.skipped u)) (after : Section) (paired : Bool) :
    TwinRunning L (walk host p paired after) (walk host p paired (u :: after)) := by
  have hdone : TwinRunning L (andThen (pure []) (walk host p paired after))
      (andThen (p.leaf u) (walk host p paired after)) :=
    (compositional_twinRunning hL).andThen hleaf (relates_walkOn hrel after paired)
  rw [andThen_nothing] at hdone
  have hstops : ∀ t, t.world.cancelled = true →
      (walk host p paired (u :: after) t).2.world.cancelled = true := fun t ht => by
    rw [walk_cons_of_cancelled host p paired u after ht]
    exact (hskip.bind fun _ => (compositional_twinRunning hL).value []).keeps t ht
  refine ⟨fun s t hst hend => ?_, hstops⟩
  have ht : t.world.cancelled = false := by
    rw [Bool.eq_false_iff]
    exact fun hk => absurd (hstops t hk) (by simp [hend])
  rw [walk_cons_of_command host p paired after hu ht] at hend ⊢
  exact hdone.same s t hst hend

end Walks

end Run

open Run

/-! ## Runs -/

/-- The events of a run that comes to an unknown entry: it is dispatched, that is settled without a
runner, and a warning says so. -/
inductive Event.OfUnknown (u : Entry) : Event → Prop
  | dispatched (c : Context) : OfUnknown u (.dispatched ⟨u.tag, u.argument⟩ c)
  | settled (cancelled : Bool) : OfUnknown u
      (.settled ⟨u.tag, u.argument⟩ (.error (.error (.config (.noRunner u.tag)))) cancelled)
  | warned : OfUnknown u (.logged .running .warn (unknownCommand u.tag))

/-- Histories that an unknown entry makes a difference to, in a run that is not cancelled: only the
events of a run that comes to it. -/
def PaddedRunning (u : Entry) : List Event → List Event → Prop :=
  Padded (Event.OfUnknown u) fun _ _ => False

/-- Histories that an unknown entry makes a difference to, if `behind` is the entry behind it.
Besides the events of a run that comes to it, a cancelled run that stops there names it, in place of
the entry behind it; or if there is none, where it would name none. -/
def PaddedRun (u : Entry) (behind : Option Entry) : List Event → List Event → Prop :=
  Padded (fun e => e.OfUnknown u ∨ behind = none ∧ e = skipping u)
    fun e e' => ∃ f ∈ behind, e = skipping f ∧ e' = skipping u

/-- The warning where collecting comes to an entry of no known kind. -/
def unknownDependency (u : Entry) : Event :=
  .logged .collecting .warn ("Unknown dependency type '" ++ u.tag ++ "', skipping")

/-- Histories that an unknown entry makes a difference to by a warning alone. -/
def PaddedCollecting (u : Entry) : List Event → List Event → Prop :=
  Padded (· = unknownDependency u) fun _ _ => False

/-- Events in which something is done: a runner was given a command, a process was asked for, a
variable was set, an expression evaluated, dependencies recorded, the registry asked. -/
def Event.acts : Event → Bool
  | .handled _ _ | .launched _ | .noted _ | .recorded _ | .assigned _ _ | .evaluated _
  | .consulted => true
  | .logged _ _ _ | .dispatched _ _ | .settled _ _ _ => false

theorem PaddedRun.acts {u : Entry} {behind : Option Entry} {es es' : List Event}
    (h : PaddedRun u behind es es') : es'.filter Event.acts = es.filter Event.acts := by
  refine Padded.filter_eq (fun e he => ?_) (fun e e' he => ?_) h
  · rcases he with (_ | _ | _) | ⟨-, rfl⟩ <;> rfl
  · obtain ⟨f, -, rfl, rfl⟩ := he
    exact ⟨rfl, rfl⟩

theorem PaddedCollecting.acts {u : Entry} {es es' : List Event} (h : PaddedCollecting u es es') :
    es'.filter Event.acts = es.filter Event.acts :=
  Padded.filter_eq (fun _ he => by cases he; rfl) (fun _ _ he => he.elim) h

namespace Run

variable {u : Entry} {env : Env W} {inner : Interpreter W}

/-- A command that no runner accepts is only warned of. -/
theorem runCommand_of_unknown {command : Command} (h : env.registry.resolve? command = none)
    (s : State W) :
    runCommand env inner command s =
      (.ok .null, ((s.note (.dispatched command s.context)).note (.settled command
        (.error (.error (.config (.noRunner command.tag)))) s.world.cancelled)).note
        (.logged .running .warn (unknownCommand command.tag))) := by
  have hdispatch : dispatch env inner command s =
      (.error (.error (.config (.noRunner command.tag))),
        (s.note (.dispatched command s.context)).note (.settled command
          (.error (.error (.config (.noRunner command.tag)))) s.world.cancelled)) := by
    rw [dispatch, h]
    rfl
  rw [runCommand, hdispatch]
  rfl

/-- The events of a run that comes to an entry that no runner accepts. -/
theorem twin_unknown {own : Event → Prop} {instead : Event → Event → Prop}
    (hown : ∀ e, Event.OfUnknown u e → own e)
    (h : env.registry.resolve? ⟨u.tag, u.argument⟩ = none) :
    Twin (Padded own instead) (pure []) ((executor env inner).leaf u) := by
  intro s t hst
  rw [executor_leaf, runCommand_of_unknown h]
  exact ⟨rfl, hst.context, hst.outside, hst.cancelled,
    .more (hown _ .warned) (.more (hown _ (.settled _))
      (.more (hown _ (.dispatched _)) hst.events))⟩

/-- **Runs** absorb an entry that no runner accepts. -/
theorem absorbs_executor (behind : Option Entry)
    (h : env.registry.resolve? ⟨u.tag, u.argument⟩ = none) :
    Absorbs (PaddedRun u behind) (executor env inner) u behind where
  leaf := twin_unknown (fun _ => .inl) h
  ended hend _ _ hst :=
    ⟨rfl, hst.context, hst.outside, hst.cancelled, .more (.inr ⟨hend, rfl⟩) hst.events⟩
  passed f hf _ _ hst :=
    ⟨rfl, hst.context, hst.outside, hst.cancelled, .other ⟨f, hf, rfl, rfl⟩ hst.events⟩

theorem skipped_executor (e e' : Entry) (h : e'.tag = e.tag) :
    (executor env inner).skipped e' = (executor env inner).skipped e := by
  simp only [executor, h]

variable {host : Host W} {collect : Section → Run W (List Dependency)}

/-- **Collecting** absorbs an entry of no known kind. -/
theorem absorbs_collector (behind : Option Entry) (hcall : u.tag ≠ "call")
    (hkind : isDependencyKind u.tag = false) :
    Absorbs (PaddedCollecting u) (collector collect) u behind where
  leaf s t hst := by
    have hleaf : dependencyLeaf collect u t = (.ok [], t.note (unknownDependency u)) := by
      rw [dependencyLeaf, context_bind, if_neg hcall, hkind]
      rfl
    rw [show (collector collect).leaf u t = _ from hleaf]
    exact ⟨rfl, hst.context, hst.outside, hst.cancelled, .more rfl hst.events⟩
  ended _ := twin_pure ()
  passed _ _ := twin_pure ()

section Sections

variable (hu : Construct.ofTag u.tag = .command) {behind : Option Entry} {sec sec' : Section}
variable (hins : Inserted u behind sec sec')

include hu hins

/-- **A run** with an unknown entry more. -/
theorem twin_runSection (hunknown : env.registry.resolve? ⟨u.tag, u.argument⟩ = none) :
    ∀ depth, Twin (PaddedRun u behind) (runSection env depth sec) (runSection env depth sec')
  | 0 => twin_exhausted
  | depth + 1 => by
    have hL : Extends (PaddedRun u behind) := Padded.kept
    let p := executor env (interpreter env depth)
    have hleaf : ∀ e, Twin (PaddedRun u behind) (p.leaf e) (p.leaf e) := fun e =>
      (twin_runCommand hL (twin_interpreter hL env depth) _).bind fun _ => twin_pure []
    have hrel : Relates env.host p p (fun _ => True) (Twin (PaddedRun u behind)) :=
      relates_twin hL (fun _ => twin_log hL _ _ _) hleaf
    have hwalk := relates_of_inserted hrel skipped_executor hu
      (twin_front hL hrel hu (absorbs_executor behind hunknown)) hins
    exact hwalk.bind fun _ => twin_pure ()

/-- **A run that is not cancelled** says nothing else of the entry. -/
theorem twinRunning_runSection (hlasts : env.registry.Lasting)
    (hunknown : env.registry.resolve? ⟨u.tag, u.argument⟩ = none) :
    ∀ depth, TwinRunning (PaddedRunning u) (runSection env depth sec) (runSection env depth sec')
  | 0 => twin_exhausted.running fun _ => id
  | depth + 1 => by
    have hL : Extends (PaddedRunning u) := Padded.kept
    have hsteps : Compositional fun _ : Type => TwinRunning (W := W) (PaddedRunning u) :=
      compositional_twinRunning hL
    let p := executor env (interpreter env depth)
    have hrun : ∀ command, TwinRunning (PaddedRunning u)
        (runCommand env (interpreter env depth) command)
        (runCommand env (interpreter env depth) command) := fun command =>
      (twin_runCommand hL (twin_interpreter hL env depth) command).running
        (staysCancelled_runCommand hlasts (lasting_interpreter hlasts depth) command)
    have hskip : ∀ e, TwinRunning (PaddedRunning u) (p.skipped e) (p.skipped e) := fun _ =>
      hsteps.message _ _ _
    have hrel : Relates env.host p p (fun _ => True) (TwinRunning (PaddedRunning u)) :=
      relates_twinRunning hL hskip fun e => (hrun _).bind fun _ => hsteps.value []
    have hunknown : TwinRunning (PaddedRunning u) (pure []) (p.leaf u) :=
      (twin_unknown (fun _ => id) hunknown).running
        ((hrun ⟨u.tag, u.argument⟩).bind fun _ => hsteps.value []).keeps
    have hwalk := relates_of_inserted hrel skipped_executor hu
      (fun after _ => twinRunning_front hL hrel hu hunknown (hskip u) after) hins
    exact hwalk.bind fun _ => hsteps.value ()

/-- **Collecting** with an unknown entry more. -/
theorem twin_dependencies_of_inserted (hcall : u.tag ≠ "call")
    (hkind : isDependencyKind u.tag = false) :
    Twin (PaddedCollecting u) (dependencies host sec) (dependencies host sec') := by
  have hL : Extends (PaddedCollecting u) := Padded.kept
  let p := collector (collect host maxCalls)
  have hrel : Relates host p p (fun _ => True) (Twin (PaddedCollecting u)) :=
    relates_twin hL (fun _ => twin_pure ()) (twin_dependencyLeaf hL (twin_collect hL host maxCalls))
  exact relates_of_inserted hrel (fun _ _ _ => rfl) hu
    (twin_front hL hrel hu (absorbs_collector behind hcall hkind)) hins

end Sections

end Run

/-- **Unknown entries are transparent.** An entry that is no control construct and that no runner
accepts, inserted at any place but between an `if` and its `else`, changes neither how a run ends
nor its context, what it leaves outside, whether it is cancelled, or what it does. Besides what a
run says where it comes to the entry, one that stops there names the entry, in place of the one
behind it or, at the end of a section, where it would name none; and such a run is cancelled, unless
code that is not built in takes that back. The same holds of collecting, for an entry of no known
kind, where nothing but the warning is added. -/
theorem unknown_transparent {u : Entry} (hu : Construct.ofTag u.tag = .command)
    {behind : Option Entry} {sec sec' : Section} (hins : Inserted u behind sec sec') :
    (∀ env : Env W, env.registry.resolve? ⟨u.tag, u.argument⟩ = none → ∀ depth s,
      (runSection env depth sec' s).1 = (runSection env depth sec s).1 ∧
      State.Beside (PaddedRun u behind) (runSection env depth sec s).2
        (runSection env depth sec' s).2 ∧
      (runSection env depth sec' s).2.world.events.filter Event.acts =
        (runSection env depth sec s).2.world.events.filter Event.acts ∧
      (env.registry.Lasting → (runSection env depth sec' s).2.world.cancelled = false →
        State.Beside (PaddedRunning u) (runSection env depth sec s).2
          (runSection env depth sec' s).2)) ∧
    ∀ host : Host W, u.tag ≠ "call" → isDependencyKind u.tag = false → ∀ s,
      (dependencies host sec' s).1 = (dependencies host sec s).1 ∧
      State.Beside (PaddedCollecting u) (dependencies host sec s).2 (dependencies host sec' s).2 ∧
      (dependencies host sec' s).2.world.events.filter Event.acts =
        (dependencies host sec s).2.world.events.filter Event.acts := by
  refine ⟨fun env hunknown depth s => ?_, fun host hcall hkind s => ?_⟩
  · obtain ⟨houtcome, hbeside⟩ :=
      twin_runSection hu hins hunknown depth s s ⟨rfl, rfl, rfl, .refl _⟩
    refine ⟨houtcome, hbeside, hbeside.events.acts, fun hlasts hend => ?_⟩
    exact ((twinRunning_runSection hu hins hlasts hunknown depth).same s s
      ⟨rfl, rfl, rfl, .refl _⟩ hend).2
  · have htwin : Twin (PaddedCollecting u) (dependencies host sec) (dependencies host sec') :=
      twin_dependencies_of_inserted hu hins hcall hkind
    obtain ⟨houtcome, hbeside⟩ := htwin s s ⟨rfl, rfl, rfl, .refl _⟩
    exact ⟨houtcome, hbeside, hbeside.events.acts⟩

namespace Novelty

/-- An entry of a kind that is not known. -/
def entry : Entry := ⟨"frobnicate", .list [.text "$i"]⟩

/-- A loop with a branch in it. -/
def loop (branch : Section) : Section :=
  [⟨"for $i in $items", Section.toValue
    [⟨"if $i", branch.toValue⟩, ⟨"else", .list []⟩, ⟨"rpm", .text "$i"⟩]⟩]

/-- The loop without the entry. -/
def plain : Section := loop [⟨"log_i", .text "$i"⟩]

/-- The loop with the entry at the end of the branch. -/
def extended : Section := loop [⟨"log_i", .text "$i"⟩, entry]

/-- A state with something to loop over. -/
def start : State Unit where
  context := { vars := Table.ofList [("items", .text "a b")] }
  world := { outside := () }

theorem inserted : Inserted entry none plain extended := by
  have hbranch : Inserted entry none [⟨"log_i", .text "$i"⟩] [⟨"log_i", .text "$i"⟩, entry] :=
    .here [⟨"log_i", .text "$i"⟩] [] rfl (.inl (by decide +kernel))
  have hif : (Construct.ofTag "if $i").hasBody = true := by decide +kernel
  have hfor : (Construct.ofTag "for $i in $items").hasBody = true := by decide +kernel
  have hloop : ∀ branch branch' after : Section, Inserted entry none branch branch' →
      Entry.body ⟨"if $i", branch.toValue⟩ = .ok branch →
      Entry.body ⟨"if $i", branch'.toValue⟩ = .ok branch' →
      Inserted entry none (⟨"if $i", branch.toValue⟩ :: after)
        (⟨"if $i", branch'.toValue⟩ :: after) :=
    fun _ _ after hins hb hb' => .inside [] after rfl hif hb hb' hins
  exact .inside [] [] rfl hfor rfl rfl (hloop _ _ _ hbranch rfl rfl)

end Novelty

/-- A run of the loop, and what it declares, with the entry and without. -/
theorem unknown_transparent_novelty :
    Construct.ofTag Novelty.entry.tag = .command ∧
      (Env.watched "").registry.resolve? ⟨Novelty.entry.tag, Novelty.entry.argument⟩ = none ∧
      (Env.watched "").registry.Lasting ∧
      (runSection (Env.watched "") 1 Novelty.extended Novelty.start).1 = .ok () ∧
      (runSection (Env.watched "") 1 Novelty.extended Novelty.start).2.world.cancelled = false ∧
      State.Beside (PaddedRunning Novelty.entry)
        (runSection (Env.watched "") 1 Novelty.plain Novelty.start).2
        (runSection (Env.watched "") 1 Novelty.extended Novelty.start).2 ∧
      (dependencies (Host.still "") Novelty.extended Novelty.start).1 =
        .ok [⟨"rpm", .text "a"⟩, ⟨"rpm", .text "b"⟩] := by
  have hu : Construct.ofTag Novelty.entry.tag = .command := by decide +kernel
  have hunknown :
      (Env.watched "").registry.resolve? ⟨Novelty.entry.tag, Novelty.entry.argument⟩ = none :=
    Option.isNone_iff_eq_none.mp (by decide +kernel)
  have hlasts : (Env.watched "").registry.Lasting := (standard_watched "").orderly.lasting
  obtain ⟨hrun, hcollect⟩ := unknown_transparent (W := Unit) hu Novelty.inserted
  obtain ⟨houtcome, -, -, hbeside⟩ := hrun (Env.watched "") hunknown 1 Novelty.start
  have hok : (runSection (Env.watched "") 1 Novelty.plain Novelty.start).1 = .ok () :=
    eq_ok_of_toOption (by decide +kernel)
  have hend : (runSection (Env.watched "") 1 Novelty.extended Novelty.start).2.world.cancelled =
      false := by decide +kernel
  have hdeclares : (dependencies (Host.still "") Novelty.plain Novelty.start).1 =
      .ok [⟨"rpm", .text "a"⟩, ⟨"rpm", .text "b"⟩] := eq_ok_of_toOption (by decide +kernel)
  obtain ⟨hsame, -⟩ :=
    hcollect (Host.still "") (by decide +kernel) (by decide +kernel) Novelty.start
  exact ⟨hu, hunknown, hlasts, houtcome.trans hok, hend, hbeside hlasts hend,
    hsame.trans hdeclares⟩

/-- A cancelled run names some entry, and then the unknown one in its place. -/
def Event.Renamed (u : Entry) (e e' : Event) : Prop := (∃ f, e = skipping f) ∧ e' = skipping u

/-- Messages of a run for the developer. -/
def Event.ofDebugging : Event → Bool
  | .logged .running .debug _ => true
  | _ => false

/-- A run that its last command cancels says nothing of the entries behind it. With an unknown entry
there, it says that it stops at that, so there is a message more than the warnings. -/
theorem not_transparent_at_end :
    let u : Entry := ⟨"frobnicate", .text "x"⟩
    let stop : Entry := ⟨"stop", .text "now"⟩
    let s : State Unit := ⟨{}, ⟨(), false, []⟩⟩
    Construct.ofTag u.tag = .command ∧
      (Env.watched "").registry.resolve? ⟨u.tag, u.argument⟩ = none ∧
      Inserted u none [stop] [stop, u] ∧
      ¬State.Beside (Padded (Event.OfUnknown u) (Event.Renamed u))
        (runSection (Env.watched "") 1 [stop] s).2
        (runSection (Env.watched "") 1 [stop, u] s).2 := by
  intro u stop s
  refine ⟨by decide +kernel, Option.isNone_iff_eq_none.mp (by decide +kernel),
    .here [stop] [] rfl (.inl (by decide +kernel)), fun h => ?_⟩
  have hcount := h.events.countP_eq (p := Event.ofDebugging)
    (fun e he => by rcases he with _ | _ | _ <;> rfl)
    (fun e e' he => by
      obtain ⟨⟨f, rfl⟩, rfl⟩ := he
      rfl)
  have hplain : (runSection (Env.watched "") 1 [stop] s).2.world.events.countP
      Event.ofDebugging = 0 := by decide +kernel
  have hextended : (runSection (Env.watched "") 1 [stop, u] s).2.world.events.countP
      Event.ofDebugging = 1 := by decide +kernel
  rw [hplain, hextended] at hcount
  cases hcount

end Scaffold
