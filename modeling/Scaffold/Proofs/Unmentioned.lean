import Scaffold.Proofs.Command
import Scaffold.Proofs.Evaluation
import Scaffold.Proofs.Occurrence

/-!
# Variables that are not mentioned

Collecting dependencies reads variables by the names that stand in sections, and the values that it
puts in for them are not read again. So a variable whose name occurs nowhere in the sections that
can be reached does not count, whatever texts the values of the others are.

* `AgreeBut`: values of variables that agree but for one.
* `Context.NeverNames`: a context in which no section that can be called mentions a variable.
* `Event.ofRunner`: the events of runners and installers.
* `Run.Blind`: a computation that does the same whatever a variable is, adds no such event, and
  calls nothing that mentions the variable.

Results:
* `blind_evaluate`, `blind_expandLoop`: expressions that do not mention a variable.
* **`blind_collect`**: collecting from a section that does not mention it.
* **`assistantDependencies_of_neverNamed`**: so an assistant depends on what is mentioned alone.
-/

namespace Scaffold

variable {W α β : Type}

/-- Values of variables that agree, but for one variable. -/
def AgreeBut (x : String) (vars vars' : Vars) : Prop := ∀ n, n ≠ x → vars'.get? n = vars.get? n

/-- A context with other values of variables. -/
def Context.withVars (c : Context) (vars : Vars) : Context := { c with vars }

/-- A state with other values of variables. -/
def State.withVars (s : State W) (vars : Vars) : State W :=
  { s with context := s.context.withVars vars }

/-- Events of the runners, and of what installs. -/
def Event.ofRunner : Event → Bool
  | .dispatched _ _ | .handled _ _ | .settled _ _ _ | .noted _ | .recorded _ | .consulted => true
  | .logged _ _ _ | .evaluated _ | .assigned _ _ | .launched _ => false

/-- From a state to a later one, no event of a runner happened. -/
def State.Quiet (s t : State W) : Prop :=
  ∃ new, t.world.events = new ++ s.world.events ∧ ∀ e ∈ new, e.ofRunner = false

namespace State.Quiet

variable {s t u : State W}

theorem refl (s : State W) : Quiet s s := ⟨[], rfl, nofun⟩

theorem trans (h : Quiet s t) (k : Quiet t u) : Quiet s u := by
  obtain ⟨new, hnew, hquiet⟩ := h
  obtain ⟨more, hmore, hquiet'⟩ := k
  refine ⟨more ++ new, by rw [hmore, hnew, List.append_assoc], fun e he => ?_⟩
  exact (List.mem_append.mp he).elim (hquiet' e) (hquiet e)

end State.Quiet

/-! ## Names that no section mentions -/

/-- A name that occurs nowhere in the sections of an assistant. -/
def Assistant.NeverNames (x : String) (a : Assistant) : Prop :=
  ∀ t ∈ sectionTexts a.sections, Omits x t

/-- A name that occurs nowhere in the sections of the snippets of a library. -/
def Library.NeverNames (x : String) (l : Library) : Prop :=
  ∀ snippet ∈ l.snippets.entries, ∀ t ∈ sectionTexts snippet.2.sections, Omits x t

instance (x : String) (a : Assistant) : Decidable (a.NeverNames x) :=
  inferInstanceAs (Decidable (∀ t ∈ sectionTexts a.sections, Omits x t))

instance (x : String) (l : Library) : Decidable (l.NeverNames x) :=
  inferInstanceAs (Decidable
    (∀ snippet ∈ l.snippets.entries, ∀ t ∈ sectionTexts snippet.2.sections, Omits x t))

/-- A name that occurs nowhere in the sections that can be called. -/
structure Context.NeverNames (x : String) (c : Context) : Prop where
  assistant : c.assistant.NeverNames x
  library : c.library.NeverNames x

/-- A change of the context that looks at no variable, and behind which no section that can be
called mentions a name. -/
structure Context.Neutral (x : String) (change : Context → Context) : Prop where
  vars : ∀ (c : Context) vars, change (c.withVars vars) = (change c).withVars vars
  named : ∀ c : Context, c.NeverNames x → (change c).NeverNames x

theorem Context.Neutral.kept {x : String} {change : Context → Context} (h : Neutral x change)
    (c : Context) : (change c).vars = c.vars := by
  have hvars := congrArg Context.vars (h.vars c c.vars)
  exact hvars

/-- An entry that does not mention a name. -/
def Entry.Omits (x : String) (e : Entry) : Prop := ∀ t ∈ e.texts, Scaffold.Omits x t

/-- A section that does not mention a name. -/
def Section.Omits (x : String) (s : Section) : Prop := ∀ t ∈ Section.texts s, Scaffold.Omits x t

theorem Section.omits_of_get? {x name : String} {t : Table Section} {s : Section}
    (h : ∀ u ∈ sectionTexts t, Scaffold.Omits x u) (hs : t.get? name = some s) : s.Omits x := by
  obtain ⟨e, he, rfl⟩ := Option.map_eq_some_iff.mp hs
  exact fun u hu => h u (List.mem_flatMap.mpr
    ⟨e, List.mem_of_find?_eq_some he, List.mem_cons_of_mem _ hu⟩)

theorem Context.NeverNames.callee {x target : String} {c : Context} {kind : SectionKind}
    {callee : Callee} (h : c.NeverNames x) (hc : c.resolve? kind target = some callee) :
    Section.Omits x callee.entries := by
  unfold Context.resolve? at hc
  dsimp only at hc
  split at hc
  · obtain ⟨sec, hsec, rfl⟩ := Option.map_eq_some_iff.mp hc
    exact Section.omits_of_get? h.assistant hsec
  · obtain ⟨snippet, hsnippet, hc⟩ := Option.bind_eq_some_iff.mp hc
    obtain ⟨sec, hsec, rfl⟩ := Option.map_eq_some_iff.mp hc
    obtain ⟨e, he, rfl⟩ := Option.map_eq_some_iff.mp hsnippet
    exact Section.omits_of_get? (h.library e (List.mem_of_find?_eq_some he)) hsec

namespace Run

/-! ## Computations that do not see a variable -/

/-- From a state, a computation does the same whatever the variable is. It records no event of a
runner, and from where it ends no section can be called that mentions the variable. -/
structure BlindAt (x : String) (f : Run W α) (s : State W) : Prop where
  same : ∀ vars, AgreeBut x s.context.vars vars →
    ∃ vars', AgreeBut x (f s).2.context.vars vars' ∧
      f (s.withVars vars) = ((f s).1, (f s).2.withVars vars')
  named : (f s).2.context.NeverNames x
  quiet : s.Quiet (f s).2

/-- A computation that does so wherever no section that can be called mentions the variable. -/
def Blind (x : String) (f : Run W α) : Prop := ∀ s, s.context.NeverNames x → BlindAt x f s

section Primitives

variable {x : String}

theorem blind_pure (a : α) : Blind x (pure a : Run W α) :=
  fun s hs => ⟨fun vars h => ⟨vars, h, rfl⟩, hs, .refl s⟩

theorem blind_raise (f : Failure) : Blind x (raise f : Run W α) :=
  fun s hs => ⟨fun vars h => ⟨vars, h, rfl⟩, hs, .refl s⟩

theorem blind_fail (e : Error) : Blind x (fail e : Run W α) := blind_raise (.error e)

theorem blind_ofSyntax : ∀ r : Except SyntaxError α, Blind x (ofSyntax r : Run W α)
  | .ok a => blind_pure a
  | .error _ => blind_fail _

theorem blind_record {e : Event} (he : e.ofRunner = false) : Blind x (record e : Run W Unit) :=
  fun _ hs => ⟨fun vars h => ⟨vars, h, rfl⟩, hs, [e], rfl, by simpa using he⟩

theorem blind_log (o : Origin) (l : Level) (m : String) : Blind x (log o l m : Run W Unit) :=
  blind_record rfl

theorem blind_outside (f : W → α × W) : Blind x (outside f) :=
  fun s hs => ⟨fun vars h => ⟨vars, h, rfl⟩, hs, .refl s⟩

theorem blind_isCancelled : Blind x (isCancelled : Run W Bool) :=
  fun s hs => ⟨fun vars h => ⟨vars, h, rfl⟩, hs, .refl s⟩

theorem blind_world : Blind x (world : Run W (World W)) :=
  fun s hs => ⟨fun vars h => ⟨vars, h, rfl⟩, hs, .refl s⟩

theorem Blind.bind {f : Run W α} {g : α → Run W β} (hf : Blind x f) (hg : ∀ a, Blind x (g a)) :
    Blind x (f >>= g) := by
  intro s hs
  obtain ⟨hsame, hnamed, hquiet⟩ := hf s hs
  rcases h : f s with ⟨e | a, t⟩ <;> rw [h] at hsame hnamed hquiet
  · have hbind : (f >>= g) s = (.error e, t) := bind_of_error h
    refine ⟨fun vars hvars => ?_, hbind ▸ hnamed, hbind ▸ hquiet⟩
    obtain ⟨vars', hvars', hf'⟩ := hsame vars hvars
    exact ⟨vars', hbind ▸ hvars', by rw [hbind, bind_of_error hf']⟩
  · have hbind : (f >>= g) s = g a t := bind_of_ok h
    obtain ⟨hsame', hnamed', hquiet'⟩ := hg a t hnamed
    refine ⟨fun vars hvars => ?_, hbind ▸ hnamed', hbind ▸ hquiet.trans hquiet'⟩
    obtain ⟨vars', hvars', hf'⟩ := hsame vars hvars
    obtain ⟨vars'', hvars'', hg'⟩ := hsame' vars' hvars'
    exact ⟨vars'', hbind ▸ hvars'', by rw [hbind, bind_of_ok hf', hg']⟩

/-- What is read from a text, if it reads. -/
theorem blind_ofSyntax_bind {r : Except SyntaxError α} {f : α → Run W β}
    (h : ∀ a, r = .ok a → Blind x (f a)) : Blind x (ofSyntax r >>= f) := by
  cases r with
  | error e => exact blind_fail (.syntaxFault e)
  | ok a => exact h a rfl

theorem Blind.attempt {f : Run W α} (hf : Blind x f) : Blind x (attempt f) := by
  intro s hs
  obtain ⟨hsame, hnamed, hquiet⟩ := hf s hs
  refine ⟨fun vars hvars => ?_, hnamed, hquiet⟩
  obtain ⟨vars', hvars', hf'⟩ := hsame vars hvars
  exact ⟨vars', hvars', by rw [Run.attempt, Run.attempt, hf']⟩

/-- A computation that reads the context, but not the variable. -/
theorem blind_context {f : Context → Run W α}
    (hsame : ∀ (c : Context) vars, AgreeBut x c.vars vars → f (c.withVars vars) = f c)
    (hf : ∀ c : Context, c.NeverNames x → Blind x (f c)) : Blind x (context >>= f) := by
  intro s hs
  obtain ⟨hblind, hnamed, hquiet⟩ := hf s.context hs s hs
  refine ⟨fun vars hvars => ?_, hnamed, hquiet⟩
  obtain ⟨vars', hvars', hf'⟩ := hblind vars hvars
  refine ⟨vars', hvars', ?_⟩
  rw [context_bind, context_bind, ← hf', State.withVars, hsame s.context vars hvars]

theorem blind_modifyContext {change : Context → Context} (h : Context.Neutral x change) :
    Blind x (modifyContext change : Run W Unit) := by
  intro s hs
  refine ⟨fun vars hvars => ⟨vars, (h.kept s.context).symm ▸ hvars, ?_⟩, h.named _ hs, .refl s⟩
  rw [modifyContext, modifyContext, State.withVars, h.vars]
  rfl

theorem blind_setVar (name : String) (v : Value) : Blind x (setVar name v : Run W Unit) := by
  refine (blind_record rfl).bind fun _ s hs =>
    ⟨fun vars h => ⟨vars.insert name v, fun n hn => ?_, rfl⟩, ⟨hs.assistant, hs.library⟩, .refl s⟩
  simp only [modifyContext, Table.get?_insert]
  split
  · rfl
  · exact h n hn

theorem blind_bindAll : ∀ bs : Bindings, Blind x (bindAll bs : Run W Unit)
  | [] => blind_pure ()
  | (name, v) :: rest => (blind_setVar name v).bind fun _ => blind_bindAll rest

/-- A computation on a changed copy of the context. -/
theorem Blind.forked {f : Run W α} (hf : Blind x f) {change : Context → Context}
    (h : Context.Neutral x change) : Blind x (forked change f) := by
  intro s hs
  obtain ⟨hsame, -, hquiet⟩ := hf { s with context := change s.context } (h.named _ hs)
  refine ⟨fun vars hvars => ⟨vars, hvars, ?_⟩, hs, hquiet⟩
  obtain ⟨vars', -, hf'⟩ := hsame vars ((h.kept s.context).symm ▸ hvars)
  have hentered : { s.withVars vars with context := change (s.withVars vars).context } =
      State.withVars { s with context := change s.context } vars :=
    congrArg (State.mk · _) (h.vars _ _)
  rw [Run.forked, hentered, hf']
  rfl

theorem Blind.between {f : Run W α} (hf : Blind x f) {push pop : Context → Context}
    (hpush : Context.Neutral x push) (hpop : Context.Neutral x pop) :
    Blind x (between push pop f) := by
  intro s hs
  obtain ⟨hsame, hnamed, hquiet⟩ := hf { s with context := push s.context } (hpush.named _ hs)
  refine ⟨fun vars hvars => ?_, hpop.named _ hnamed, hquiet⟩
  obtain ⟨vars', hvars', hf'⟩ := hsame vars ((hpush.kept s.context).symm ▸ hvars)
  refine ⟨vars', (hpop.kept _).symm ▸ hvars', ?_⟩
  have hentered : { s.withVars vars with context := push (s.withVars vars).context } =
      State.withVars { s with context := push s.context } vars :=
    congrArg (State.mk · _) (hpush.vars _ _)
  rw [Run.between, hentered, hf']
  exact Prod.ext rfl (congrArg (State.mk · _) (hpop.vars _ _))

theorem Blind.withScope {f : Run W α} (hf : Blind x f) (labels : List String) :
    Blind x (withScope labels f) := by
  rw [withScope_eq_between]
  exact hf.between ⟨fun _ _ => rfl, fun _ h => ⟨h.assistant, h.library⟩⟩
    ⟨fun _ _ => rfl, fun _ h => ⟨h.assistant, h.library⟩⟩

theorem Blind.withFiles {f : Run W α} (hf : Blind x f) (files : FileTable) :
    Blind x (withFiles files f) := by
  rw [withFiles_eq_between]
  exact hf.between ⟨fun _ _ => rfl, fun _ h => ⟨h.assistant, h.library⟩⟩
    ⟨fun _ _ => rfl, fun _ h => ⟨h.assistant, h.library⟩⟩

theorem Blind.andThen {f g : Run W (List α)} (hf : Blind x f) (hg : Blind x g) :
    Blind x (andThen f g) := hf.bind fun _ => hg.bind fun _ => blind_pure _

theorem compositional_blind : Compositional (W := W) fun _ f _ => Blind x f where
  value := blind_pure
  sequence := Blind.bind
  scope labels h := h.withScope labels
  bindings := blind_bindAll
  cancelled := blind_isCancelled
  message := blind_log

end Primitives

/-! ## Evaluation -/

section Evaluation

variable {x : String} (host : Host W)

theorem blind_logLines (l : Level) : ∀ lines, Blind x (logLines l lines : Run W Unit)
  | [] => blind_pure ()
  | _ :: rest => (blind_log _ l _).bind fun _ => blind_logLines l rest

theorem blind_changeDir (dir : String) (options : ShellOptions) :
    Blind x (changeDir host dir options) := by
  refine blind_context (fun _ _ _ => rfl) fun c _ => blind_world.bind fun w => ?_
  dsimp only
  split
  · have hmove : ∀ target : String,
        Context.Neutral x fun c : Context => { c with workingDir := target } :=
      fun _ => ⟨fun _ _ => rfl, fun _ h => ⟨h.assistant, h.library⟩⟩
    exact (blind_log _ _ _).bind fun _ => (blind_modifyContext (hmove _)).bind fun _ => blind_pure _
  · split
    · exact (blind_log _ _ _).bind fun _ => blind_fail _
    · exact blind_fail _

theorem blind_notStarted (command reason : String) (options : ShellOptions) :
    Blind x (notStarted command reason options : Run W String) :=
  (blind_log _ _ _).bind fun _ => blind_fail _

theorem blind_finished (command : String) (options : ShellOptions) (f : Finished) :
    Blind x (finished command options f : Run W String) := by
  refine (blind_logLines _ _).bind fun _ => ?_
  dsimp only
  split
  · exact blind_pure _
  · split
    · exact (blind_log _ _ _).bind fun _ => blind_fail _
    · exact blind_fail _

theorem blind_runShell (command : String) (options : ShellOptions) :
    Blind x (runShell host command options) := by
  unfold runShell
  split
  · exact blind_changeDir host _ options
  · refine blind_context (fun _ _ _ => rfl) fun c _ => (blind_log _ _ _).bind fun _ => ?_
    split
    · exact blind_notStarted _ _ options
    · refine (blind_record rfl).bind fun _ => (blind_outside _).bind fun r => ?_
      cases r with
      | error e => exact blind_notStarted _ _ options
      | ok f => exact blind_finished _ options f

theorem blind_verdict (r : Except Failure String) : Blind x (verdict r : Run W Evaluated) := by
  unfold verdict
  split
  · exact blind_pure _
  · exact blind_pure _
  · exact blind_pure _
  · exact blind_raise _

/-- The references in a text that does not mention the variable. -/
theorem format_of_omits {s : String} (hs : Omits x s) {c : Context} {vars : Vars}
    (h : AgreeBut x c.vars vars) : (c.withVars vars).format s = c.format s :=
  Template.format_congr fun n hn =>
    h n (hs.ne (Template.cites_of_mem_references hn).name_isInfix)

theorem blind_ask : ∀ {q : Query}, Omits x q.text → Blind x (ask host q)
  | .command line, hq => by
    rw [ask, evaluateCommand_eq]
    have hline : Omits x line := hq
    exact blind_context (fun c vars h => by rw [format_of_omits hline h])
      fun c _ => (blind_runShell host _ _).attempt.bind blind_verdict
  | .variable name, hq | .defined name, hq =>
    blind_context (fun c vars h => by rw [Context.withVars, h name (hq.ne List.infix_rfl)])
      fun _ _ => blind_pure _

theorem blind_evaluate {expression : Value} (h : ∀ t ∈ expression.texts, Omits x t) :
    Blind x (evaluate host expression) := by
  refine (blind_record rfl).bind fun _ => ?_
  split
  · rename_i raw
    have hraw : Omits x raw := h raw List.mem_cons_self
    exact blind_ofSyntax_bind fun e hr =>
      (blind_ask host (hraw.of_isInfix (infix_of_read hr))).bind fun _ => blind_pure _
  · exact blind_pure _

theorem blind_evaluate_text {raw : String} (h : Omits x raw) :
    Blind x (evaluate host (.text raw)) :=
  blind_evaluate host fun _ ht => List.mem_singleton.mp ht ▸ h

theorem blind_assign {e : Entry} (h : e.Omits x) : Blind x (assign host e.tag e.argument) := by
  have hargument : ∀ t ∈ e.argument.texts, Omits x t := fun t ht =>
    h t (List.mem_cons_of_mem _ ht)
  refine (blind_ofSyntax _).bind fun names => (blind_evaluate host hargument).bind fun r => ?_
  split
  · exact blind_setVar _ _
  · exact (blind_setVar _ _).bind fun _ => blind_setVar _ _

theorem blind_condition {e : Entry} (h : e.Omits x) : Blind x (condition host e.tag) := by
  have htext :
      (Text.trim ((Text.stripPrefix? "if" e.tag).getD e.tag)).toList <:+: e.tag.toList := by
    rw [Text.trim, String.toList_ofList]
    refine (Chars.trim_isInfix _).trans ?_
    rcases hs : Text.stripPrefix? "if" e.tag with _ | rest
    · exact List.infix_rfl
    · exact (Text.stripPrefix?_suffix hs).isInfix
  exact (blind_evaluate_text host ((h e.tag List.mem_cons_self).of_isInfix htext)).bind
    fun _ => blind_pure _

theorem blind_expandLoop {e : Entry} (h : e.Omits x) : Blind x (expandLoop host e.tag) := by
  refine blind_ofSyntax_bind fun header hr => ?_
  have hexpression : Omits x header.expression :=
    (h e.tag List.mem_cons_self).of_isInfix (LoopHeader.expression_isInfix hr)
  exact (blind_evaluate_text host hexpression).bind fun _ => blind_ofSyntax _

end Evaluation

/-! ## Collecting -/

section Collecting

variable {x : String} (host : Host W)

theorem blind_called {kind : SectionKind} {target : String} {go : Section → Run W α}
    {otherwise : α} (hgo : ∀ sec : Section, sec.Omits x → Blind x (go sec)) :
    Blind x (called kind target go otherwise) := by
  refine blind_context (fun _ _ _ => rfl) fun c hc => ?_
  rcases hr : c.resolve? kind target with _ | callee
  · exact (blind_log _ _ _).bind fun _ => blind_pure _
  · have hcallee := hgo _ (hc.callee hr)
    refine blind_context (fun _ _ _ => rfl) fun c _ => ?_
    split
    · exact blind_fail _
    · refine Blind.forked ?_ ⟨fun _ _ => rfl, fun _ h => ⟨h.assistant, h.library⟩⟩
      split
      · exact hcallee.withFiles _
      · exact hcallee

theorem blind_dependencyLeaf {go : Section → Run W (List Dependency)}
    (hgo : ∀ sec : Section, sec.Omits x → Blind x (go sec)) {e : Entry} (h : e.Omits x) :
    Blind x (dependencyLeaf go e) := by
  have hargument : ∀ {n : String}, (∃ t ∈ e.argument.texts, n.toList <:+: t.toList) → n ≠ x := by
    rintro n ⟨t, ht, hn⟩
    exact (h t (List.mem_cons_of_mem _ ht)).ne hn
  refine blind_context (fun c vars hvars => ?_) fun c _ => ?_
  · have htarget : (c.withVars vars).format e.argument.render = c.format e.argument.render :=
      Template.format_congr fun n hn => hvars n (hargument (texts_of_mem_references_render hn))
    have hvalue : (c.withVars vars).formatValue e.argument = c.formatValue e.argument :=
      Template.formatValue_congr fun n hn => hvars n (hargument (texts_of_mem_references hn))
    rw [htarget, hvalue]
  · split
    · exact blind_called hgo
    · split
      · exact blind_pure _
      · exact (blind_log _ _ _).bind fun _ => blind_pure _

/-- The constructs of a block do not see the variable, if its entries do not mention it. -/
theorem relates_blind {go : Section → Run W (List Dependency)}
    (hgo : ∀ sec : Section, sec.Omits x → Blind x (go sec)) :
    Relates host (collector go) (collector go) (Block.Reads (Entry.Omits x))
      fun f _ => Blind x f :=
  compositional_blind.relates
    { assign := fun hb => blind_assign host hb.2
      condition := fun hb _ => blind_condition host hb.first
      rounds := fun hb => blind_expandLoop host hb.2.1
      malformed := fun _ _ => blind_fail _
      leaf := fun hb => blind_dependencyLeaf hgo hb.2
      skipped := fun _ => blind_pure () }

/-- **Collecting from a section** that does not mention a variable does not see it. The induction is
on the bound: what is called does not mention it either. -/
theorem blind_collect : ∀ (depth : Nat) {sec : Section}, sec.Omits x →
    Blind x (collect host depth sec)
  | 0, _, _ => blind_raise .exhausted
  | depth + 1, sec, h => by
    have hentries : ∀ e ∈ sec.nested, e.Omits x := fun e he t ht => h t (texts_nested sec e he ht)
    exact relates_walk (relates_blind host fun sec hsec => blind_collect depth hsec) hentries

theorem blind_collectNamed {a : Assistant} (ha : a.NeverNames x) : ∀ names,
    Blind x (collectNamed host a names)
  | [] => blind_pure []
  | name :: rest => by
    rw [collectNamed]
    split
    · exact blind_collectNamed ha rest
    · rename_i sec hsec
      exact (blind_log _ _ _).bind fun _ =>
        (blind_collect host _ (Section.omits_of_get? ha hsec)).andThen (blind_collectNamed ha rest)

end Collecting

end Run

open Run

/-- Which sections count is not decided by a variable whose name occurs in none of theirs. -/
theorem dependencySections_withVars {x : String} {a : Assistant} (ha : a.NeverNames x)
    {vars vars' : Vars} (h : AgreeBut x vars vars') :
    dependencySections a vars' = dependencySections a vars := by
  refine dependencySections_congr fun name hname arg harg => h arg ?_
  obtain ⟨e, he, rfl⟩ := List.mem_map.mp hname
  have homits : Omits x e.1 := ha e.1 (List.mem_flatMap.mpr ⟨e, he, List.mem_cons_self⟩)
  exact homits.ne (Text.stripPrefix?_suffix harg).isInfix

/-- **An assistant depends on what is mentioned alone.** If the name of a variable occurs nowhere in
the sections of an assistant and in those of the snippets, then whether the variable is set, and to
what, does not count, and neither does which runners and installers there are: the outcome, the
commands that are run and all else that happens are the same, whatever texts the values of the other
variables are. Nothing is given to a runner, and nothing is installed. -/
theorem assistantDependencies_of_neverNamed {env env' : Env W} (henv : env'.host = env.host)
    {a : Assistant} {x : String} {s : State W} (ha : a.NeverNames x)
    (hlibrary : s.context.library.NeverNames x) {vars : Vars}
    (hvars : AgreeBut x s.context.vars vars) :
    assistantDependencies env'.host a (s.withVars vars) =
        ((assistantDependencies env.host a s).1,
          (assistantDependencies env.host a s).2.withVars vars) ∧
      s.Quiet (assistantDependencies env.host a s).2 := by
  let enter (c : Context) : Context := { c with kind := .dependencies, assistant := a }
  have hdo : ∀ t : State W, assistantDependencies env.host a t =
      forked enter (collectNamed env.host a (dependencySections a t.context.vars)) t := fun _ => rfl
  obtain ⟨hsame, -, hquiet⟩ := blind_collectNamed env.host ha (dependencySections a s.context.vars)
    { s with context := enter s.context } ⟨ha, hlibrary⟩
  obtain ⟨vars', -, hcollect⟩ := hsame vars hvars
  refine ⟨?_, hquiet⟩
  have hsections : dependencySections a (s.withVars vars).context.vars =
      dependencySections a s.context.vars := dependencySections_withVars ha hvars
  rw [henv, hdo, hdo, hsections]
  have hentered : { s.withVars vars with context := enter (s.withVars vars).context } =
      State.withVars { s with context := enter s.context } vars := rfl
  rw [forked, hentered, hcollect]
  rfl

namespace Shop

/-- A snippet that a call can name by a variable. -/
def tools : Snippet :=
  { name := "tools"
    sections := Table.ofList [("dependencies_for", [⟨"gem", .text "$language-tools"⟩])] }

/-- An assistant whose sections branch, repeat, call and fill in, one of them for an argument. -/
def assistant : Assistant :=
  { name := "shop"
    sections := Table.ofList
      [("dependencies",
        [⟨"if $db", .list [.mapping [(.text "rpm", .list [.text "$db", .text "${db}-devel"])]]⟩,
          ⟨"else", .list [.mapping [(.text "rpm", .list [.text "sqlite"])]]⟩,
          ⟨"for $language in $languages",
            .list [.mapping [(.text "call", .text "$helper.dependencies_for")]]⟩]),
        ("dependencies_docs", [⟨"npm", .text "$docs"⟩])] }

/-- A state in which one of the values looks like a reference to a variable that is not set. -/
def start : State Unit where
  context :=
    { vars := Table.ofList [("db", .text "$secret"), ("docs", .text "${secret}"),
        ("helper", .text "tools"), ("languages", .text "python ruby")]
      library := Library.addSnippet {} tools }
  world := { outside := () }

/-- What the assistant depends on. -/
def packages : List Dependency :=
  [⟨"rpm", .list [.text "$secret", .text "$secret-devel"]⟩, ⟨"gem", .text "python-tools"⟩,
    ⟨"gem", .text "ruby-tools"⟩, ⟨"npm", .text "${secret}"⟩]

end Shop

/-- Setting the variable changes nothing, also where there is no runner and no installer. -/
theorem assistantDependencies_of_neverNamed_shop :
    let vars := Shop.start.context.vars.insert "secret" (.text "found")
    Shop.assistant.NeverNames "secret" ∧ Shop.start.context.library.NeverNames "secret" ∧
      AgreeBut "secret" Shop.start.context.vars vars ∧
      (assistantDependencies (Host.still "") Shop.assistant (Shop.start.withVars vars)).1 =
        .ok Shop.packages := by
  have ha : Shop.assistant.NeverNames "secret" := by decide +kernel
  have hlibrary : Shop.start.context.library.NeverNames "secret" := by decide +kernel
  have hvars : AgreeBut "secret" Shop.start.context.vars
      (Shop.start.context.vars.insert "secret" (.text "found")) :=
    fun n hn => Table.get?_insert_of_ne _ _ hn.symm
  have hstart : (assistantDependencies (Host.still "") Shop.assistant Shop.start).1 =
      .ok Shop.packages := eq_ok_of_toOption (by decide +kernel)
  let without : Env Unit := { host := Host.still "", registry := {} }
  have henv : without.host = (Env.watched "").host := rfl
  obtain ⟨hsame, -⟩ := assistantDependencies_of_neverNamed henv ha hlibrary hvars
  exact ⟨ha, hlibrary, hvars, (congrArg Prod.fst hsame).trans hstart⟩

end Scaffold
