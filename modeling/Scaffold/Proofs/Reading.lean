import Scaffold.Proofs.Collect
import Scaffold.Proofs.Related

/-!
# What dependencies depend on

Which packages an assistant asks for depends on the variables that its sections of dependencies
read, and if they run no command and call nothing, on nothing else.

* `Template.references`, `Value.references`: the variables that a text, or a value, refers to.
* `Entry.reads`: the variables that an entry reads, nothing if it runs a command or a call.
* `Assistant.DependsOn`: an assistant whose sections of dependencies read variables in `N` alone,
  among them the arguments that these sections are for.
* `State.Matches`: two states that agree on the variables in `N` and on the files pushed.
* `Run.Echoes`: two computations that give the same from states that match, keep them so and do not
  use the host.

Results:
* `formatValue_congr`: filling in a value looks only at the variables that it refers to.
* `echoes_evaluate`, `relates_echoes`: what entries read decides what they do.
* **`echoes_dependencies`**, **`echoes_chainDependencies`**: so it decides what they depend on.
-/

namespace Scaffold

variable {W α β γ : Type}

/-! ## References -/

namespace Template

/-- The variable that a piece refers to. -/
def Piece.name? : Piece → Option String
  | .char _ => none
  | .bare name | .braced name => some (String.ofList name)

/-- The variables that a text refers to. -/
def references (s : String) : List String := (pieces s.toList).filterMap Piece.name?

variable {vars vars' : Vars}

theorem Piece.expand_congr {p : Piece} (h : ∀ n, p.name? = some n → vars'.get? n = vars.get? n) :
    p.expand vars' = p.expand vars := by
  cases p with
  | char c => rfl
  | bare name => simp only [Piece.expand, h _ rfl]
  | braced name => simp only [Piece.expand, h _ rfl]

theorem interpolate_congr {s : String} (h : ∀ n ∈ references s, vars'.get? n = vars.get? n) :
    interpolate vars' s = interpolate vars s := by
  have hpieces : ∀ p ∈ pieces s.toList, p.expand vars' = p.expand vars := fun p hp =>
    Piece.expand_congr fun n hn => h n (List.mem_filterMap.mpr ⟨p, hp, hn⟩)
  rw [interpolate, interpolate, List.flatMap_def, List.flatMap_def, List.map_congr_left hpieces]

end Template

namespace Value

mutual

/-- The variables that the texts in a value refer to. -/
def references : Value → List String
  | .text s => Template.references s
  | .list items => referencesList items
  | .mapping entries => referencesEntries entries
  | _ => []

/-- The variables that items refer to. -/
def referencesList : List Value → List String
  | [] => []
  | v :: rest => references v ++ referencesList rest

/-- The variables that the values of entries refer to. -/
def referencesEntries : List (Value × Value) → List String
  | [] => []
  | (_, v) :: rest => references v ++ referencesEntries rest

end

end Value

namespace Template

variable {vars vars' : Vars} {files : Option FileTable}

theorem format_congr {s : String} (h : ∀ n ∈ references s, vars'.get? n = vars.get? n) :
    format vars' files s = format vars files s := by
  unfold format
  rw [interpolate_congr h]

mutual

/-- **Filling in a value** looks only at the variables that it refers to. -/
theorem formatValue_congr : ∀ {v : Value}, (∀ n ∈ v.references, vars'.get? n = vars.get? n) →
    formatValue vars' files v = formatValue vars files v
  | .text s, h => by
    rw [Value.references] at h
    rw [formatValue, formatValue, format_congr h]
  | .list items, h => by
    rw [Value.references] at h
    rw [formatValue, formatValue, formatList_congr h]
  | .mapping entries, h => by
    rw [Value.references] at h
    rw [formatValue, formatValue, formatEntries_congr h]
  | .null, _ | .bool _, _ | .int _, _ | .float _, _ | .tagged _ _, _ => by
    simp only [formatValue]

theorem formatList_congr : ∀ {vs : List Value},
    (∀ n ∈ Value.referencesList vs, vars'.get? n = vars.get? n) →
      formatList vars' files vs = formatList vars files vs
  | [], _ => by rw [formatList, formatList]
  | v :: vs, h => by
    rw [Value.referencesList, List.forall_mem_append] at h
    rw [formatList, formatList, formatValue_congr h.1, formatList_congr h.2]

theorem formatEntries_congr : ∀ {es : List (Value × Value)},
    (∀ n ∈ Value.referencesEntries es, vars'.get? n = vars.get? n) →
      formatEntries vars' files es = formatEntries vars files es
  | [], _ => by rw [formatEntries, formatEntries]
  | (k, v) :: es, h => by
    rw [Value.referencesEntries, List.forall_mem_append] at h
    rw [formatEntries, formatEntries, formatValue_congr h.1, formatEntries_congr h.2]

end

end Template

/-! ## What an entry reads -/

/-- The variable that a query asks for, nothing if it runs a command. -/
def Query.reads : Query → Option (List String)
  | .command _ => none
  | .variable name | .defined name => some [name]

/-- The variables that an expression reads, nothing if it runs a command. -/
def Expr.readBy (raw : String) : Option (List String) :=
  match Expr.read raw with
  | .ok e => e.query.reads
  | .error _ => some []

/-- The variables that an entry reads, nothing if it runs a command or a call. -/
def Entry.reads (e : Entry) : Option (List String) :=
  match Construct.ofTag e.tag with
  | .assign =>
    match e.argument with
    | .text raw => Expr.readBy raw
    | _ => some []
  | .cond => Expr.readBy (Text.trim ((Text.stripPrefix? "if" e.tag).getD e.tag))
  | .loop =>
    match LoopHeader.read e.tag with
    | .ok h => Expr.readBy h.expression
    | .error _ => some []
  | .command => if e.tag = "call" then none else some e.argument.references
  | .otherwise | .scope => some []

/-- Names that are read, all of them in `N`. -/
def ReadsIn (N : String → Prop) (names : Option (List String)) : Prop :=
  ∃ ns, names = some ns ∧ ∀ n ∈ ns, N n

/-- A section whose entries, at every depth, read variables in `N` alone. -/
def Section.DependsOn (N : String → Prop) (s : Section) : Prop :=
  ∀ e ∈ s.nested, ReadsIn N e.reads

/-- An assistant whose sections of dependencies read variables in `N` alone. -/
structure Assistant.DependsOn (N : String → Prop) (a : Assistant) : Prop where
  general : ∀ sec, a.sections.get? dependenciesSectionName = some sec → sec.DependsOn N
  /-- A section for an argument reads whether it is set. -/
  chosen : ∀ name ∈ a.sections.keys, ∀ arg,
    Text.stripPrefix? (dependenciesSectionName ++ "_") name = some arg →
      N arg ∧ ∀ sec, a.sections.get? name = some sec → sec.DependsOn N

theorem Section.dependsOn_of_reads {N : String → Prop} {s : Section}
    {reads : List (Option (List String))} (h : s.nested.map Entry.reads = reads)
    (hreads : ∀ names ∈ reads, ReadsIn N names) : s.DependsOn N :=
  fun _ he => hreads _ (h ▸ List.mem_map_of_mem he)

/-- An assistant with the general section of dependencies alone. -/
theorem Assistant.dependsOn_of_general {N : String → Prop} {a : Assistant} {s : Section}
    (h : a.sections = Table.ofList [(dependenciesSectionName, s)]) (hs : s.DependsOn N) :
    a.DependsOn N where
  general sec hsec := by
    rw [h] at hsec
    have : s = sec := Option.some.inj hsec
    exact this ▸ hs
  chosen name hname arg harg := by
    have hnone :
        Text.stripPrefix? (dependenciesSectionName ++ "_") dependenciesSectionName = none := by
      decide +kernel
    rw [h] at hname
    rw [show name = dependenciesSectionName from List.mem_singleton.mp hname, hnone] at harg
    cases harg

/-- Two states that agree on the variables in `N` and on the files pushed, and are not cancelled. -/
structure State.Matches (N : String → Prop) (s t : State W) : Prop where
  vars : ∀ n, N n → t.context.vars.get? n = s.context.vars.get? n
  files : t.context.files = s.context.files
  running : s.world.cancelled = false ∧ t.world.cancelled = false

namespace Run

/-! ## Echoing computations -/

/-- From a state and one that matches it, two computations give the same, in states that match, with
the host as it was. -/
structure EchoesAt (N : String → Prop) (x y : Run W β) (s t : State W) : Prop where
  outcome : (y t).1 = (x s).1
  after : State.Matches N (x s).2 (y t).2
  untouched : (x s).2.world.outside = s.world.outside ∧ (y t).2.world.outside = t.world.outside

/-- Two computations that echo each other from all states that match. -/
def Echoes (N : String → Prop) (x y : Run W β) : Prop :=
  ∀ s t, State.Matches N s t → EchoesAt N x y s t

section Echoes

variable {N : String → Prop}

theorem echoes_pure (a : β) : Echoes N (pure a : Run W β) (pure a) :=
  fun _ _ h => ⟨rfl, h, rfl, rfl⟩

theorem echoes_fail (e : Error) : Echoes N (fail e : Run W β) (fail e) :=
  fun _ _ h => ⟨rfl, h, rfl, rfl⟩

theorem echoes_ofSyntax : ∀ r : Except SyntaxError β, Echoes N (ofSyntax r : Run W β) (ofSyntax r)
  | .ok a => echoes_pure a
  | .error _ => echoes_fail _

theorem echoes_record (e e' : Event) : Echoes N (record e : Run W Unit) (record e') :=
  fun _ _ h => ⟨rfl, ⟨h.vars, h.files, h.running⟩, rfl, rfl⟩

theorem echoes_log (o : Origin) (l : Level) (m : String) :
    Echoes N (log o l m : Run W Unit) (log o l m) := echoes_record _ _

theorem EchoesAt.bind {x y : Run W β} {f g : β → Run W γ} {s t : State W}
    (hx : EchoesAt N x y s t) (hf : ∀ a, Echoes N (f a) (g a)) :
    EchoesAt N (x >>= f) (y >>= g) s t := by
  obtain ⟨houtcome, hafter, hs, ht⟩ := hx
  rcases hxs : x s with ⟨e | a, s₁⟩ <;> rcases hyt : y t with ⟨e' | b, t₁⟩ <;>
    simp only [hxs, hyt] at houtcome hafter hs ht
  · cases houtcome
    refine ⟨?_, ?_, ?_⟩ <;> rw [bind_of_error hxs, bind_of_error hyt]
    · exact hafter
    · exact ⟨hs, ht⟩
  · cases houtcome
  · cases houtcome
  · cases houtcome
    obtain ⟨houtcome', hafter', hs', ht'⟩ := hf a s₁ t₁ hafter
    refine ⟨?_, ?_, ?_⟩ <;> rw [bind_of_ok hxs, bind_of_ok hyt]
    · exact houtcome'
    · exact hafter'
    · exact ⟨hs'.trans hs, ht'.trans ht⟩

theorem Echoes.bind {x y : Run W β} {f g : β → Run W γ} (hx : Echoes N x y)
    (hf : ∀ a, Echoes N (f a) (g a)) : Echoes N (x >>= f) (y >>= g) :=
  fun s t h => (hx s t h).bind hf

theorem echoes_ofSyntax_bind {r : Except SyntaxError β} {f g : β → Run W γ}
    (h : ∀ a, r = .ok a → Echoes N (f a) (g a)) :
    Echoes N (ofSyntax r >>= f) (ofSyntax r >>= g) := by
  cases r with
  | error e => exact (echoes_fail (.syntaxFault e) : Echoes N (fail _ : Run W γ) _)
  | ok a => exact h a rfl

/-- Computations that read the context echo each other if what they read of it is the same. -/
theorem echoes_context {f g : Context → Run W β}
    (h : ∀ s t, State.Matches N s t → EchoesAt N (f s.context) (g t.context) s t) :
    Echoes N (context >>= f) (context >>= g) :=
  fun s t hst => ⟨(h s t hst).outcome, (h s t hst).after, (h s t hst).untouched⟩

theorem echoes_isCancelled : Echoes N (isCancelled : Run W Bool) isCancelled := by
  intro s t hst
  refine ⟨?_, hst, rfl, rfl⟩
  change Except.ok t.world.cancelled = .ok s.world.cancelled
  rw [hst.running.1, hst.running.2]

theorem echoes_setVar (name : String) (v : Value) :
    Echoes N (setVar name v : Run W Unit) (setVar name v) := by
  intro s t h
  refine ⟨rfl, ⟨fun n hn => ?_, h.files, h.running⟩, rfl, rfl⟩
  rw [setVar_apply, setVar_apply]
  simp only [Table.get?_insert]
  split
  · rfl
  · exact h.vars n hn

theorem echoes_bindAll : ∀ bs : Bindings, Echoes N (bindAll bs : Run W Unit) (bindAll bs)
  | [] => echoes_pure ()
  | (name, v) :: rest => (echoes_setVar name v).bind fun _ => echoes_bindAll rest

/-- A computation on a copy of the context, which keeps variables and files. -/
theorem echoes_forked {x y : Run W β} (h : Echoes N x y) (change : Context → Context)
    (hvars : ∀ c, (change c).vars = c.vars) (hfiles : ∀ c, (change c).files = c.files) :
    Echoes N (forked change x) (forked change y) := by
  intro s t hst
  obtain ⟨houtcome, hafter, huntouched⟩ := h { s with context := change s.context }
    { t with context := change t.context }
    ⟨by simpa only [hvars] using hst.vars, by simpa only [hfiles] using hst.files, hst.running⟩
  exact ⟨houtcome, ⟨hst.vars, hst.files, hafter.running⟩, huntouched⟩

theorem echoes_withScope {x y : Run W β} (h : Echoes N x y) (labels : List String) :
    Echoes N (withScope labels x) (withScope labels y) := by
  intro s t hst
  obtain ⟨houtcome, hafter, huntouched⟩ :=
    h (s.inScope labels) (t.inScope labels) ⟨hst.vars, hst.files, hst.running⟩
  exact ⟨houtcome, ⟨hafter.vars, hafter.files, hafter.running⟩, huntouched⟩

theorem compositional_echoes : Compositional fun _ : Type => Echoes (W := W) N where
  value := echoes_pure
  sequence := Echoes.bind
  scope labels h := echoes_withScope h labels
  bindings := echoes_bindAll
  cancelled := echoes_isCancelled
  message := echoes_log

/-! ### Evaluation -/

section Evaluation

variable (host : Host W)

theorem echoes_ask : ∀ {q : Query}, ReadsIn N q.reads → Echoes N (ask host q) (ask host q)
  | .command _, h => by
    obtain ⟨ns, hns, -⟩ := h
    cases hns
  | .variable name, h | .defined name, h => by
    obtain ⟨ns, hns, hN⟩ := h
    cases hns
    refine echoes_context fun s t hst => ?_
    rw [hst.vars name (hN name List.mem_cons_self)]
    exact echoes_pure _ s t hst

theorem echoes_evaluate {expression : Value}
    (h : ∀ raw, expression = .text raw → ReadsIn N (Expr.readBy raw)) :
    Echoes N (evaluate host expression) (evaluate host expression) := by
  refine (echoes_record _ _).bind fun _ => ?_
  split
  · rename_i raw
    have hraw := h raw rfl
    unfold Expr.readBy at hraw
    rcases hr : Expr.read raw with x | e <;> rw [hr] at hraw
    · exact echoes_fail (.syntaxFault x)
    · exact (echoes_ask host hraw).bind fun _ => echoes_pure _
  · exact echoes_pure _

theorem echoes_evaluate_text {raw : String} (h : ReadsIn N (Expr.readBy raw)) :
    Echoes N (evaluate host (.text raw)) (evaluate host (.text raw)) :=
  echoes_evaluate host fun _ hraw => Value.text.inj hraw ▸ h

theorem echoes_assign {e : Entry} (hc : Construct.ofTag e.tag = .assign) (h : ReadsIn N e.reads) :
    Echoes N (assign host e.tag e.argument) (assign host e.tag e.argument) := by
  have hargument : ∀ raw, e.argument = .text raw → ReadsIn N (Expr.readBy raw) := by
    intro raw hraw
    simpa only [Entry.reads, hc, hraw] using h
  refine (echoes_ofSyntax _).bind fun names => (echoes_evaluate host hargument).bind fun r => ?_
  split
  · exact echoes_setVar _ _
  · exact (echoes_setVar _ _).bind fun _ => echoes_setVar _ _

theorem echoes_condition {e : Entry} (hc : Construct.ofTag e.tag = .cond) (h : ReadsIn N e.reads) :
    Echoes N (condition host e.tag) (condition host e.tag) := by
  have hreads :
      ReadsIn N (Expr.readBy (Text.trim ((Text.stripPrefix? "if" e.tag).getD e.tag))) := by
    simpa only [Entry.reads, hc] using h
  exact (echoes_evaluate_text host hreads).bind fun _ => echoes_pure _

theorem echoes_expandLoop {e : Entry} (hc : Construct.ofTag e.tag = .loop) (h : ReadsIn N e.reads) :
    Echoes N (expandLoop host e.tag) (expandLoop host e.tag) := by
  refine echoes_ofSyntax_bind fun header hr => ?_
  have hreads : ReadsIn N (Expr.readBy header.expression) := by
    simpa only [Entry.reads, hc, hr] using h
  exact (echoes_evaluate_text host hreads).bind fun r => echoes_ofSyntax _

end Evaluation

/-! ### Collecting -/

section Collecting

variable (host : Host W)

/-- A leaf that is no call: its argument is filled in from the variables that it refers to. -/
theorem echoes_dependencyLeaf (collect : Section → Run W (List Dependency)) {e : Entry}
    (hc : Construct.ofTag e.tag = .command) (h : ReadsIn N e.reads) :
    Echoes N (dependencyLeaf collect e) (dependencyLeaf collect e) := by
  obtain ⟨ns, hns, hN⟩ := h
  simp only [Entry.reads, hc] at hns
  refine echoes_context fun s t hst => ?_
  split
  · rename_i hcall
    rw [if_pos hcall] at hns
    cases hns
  · rename_i hcall
    rw [if_neg hcall] at hns
    cases hns
    split
    · have hvalue : t.context.formatValue e.argument = s.context.formatValue e.argument := by
        rw [Context.formatValue, Context.formatValue, Context.currentFiles, hst.files]
        exact Template.formatValue_congr fun n hn => hst.vars n (hN n hn)
      rw [hvalue]
      exact echoes_pure _ s t hst
    · exact ((echoes_log _ _ _).bind fun _ => echoes_pure _) s t hst

/-- The constructs of a block keep the echo, if its entries read variables in `N` alone. -/
theorem relates_echoes (collect : Section → Run W (List Dependency)) :
    Relates host (collector collect) (collector collect)
      (Block.Reads fun e => ReadsIn N e.reads) (Echoes N) :=
  compositional_echoes.relates
    { assign := fun hb => echoes_assign host hb.1 hb.2
      condition := fun {b} hb hbranch => by
        have hc : Construct.ofTag b.first.tag = .cond := by
          cases b with
          | choice => exact hb.1
          | fused => exact hb.1.1
          | _ => exact hbranch.elim
        exact echoes_condition host hc hb.first
      rounds := fun hb => echoes_expandLoop host hb.1 hb.2.1
      malformed := fun _ _ => echoes_fail _
      leaf := fun hb => echoes_dependencyLeaf collect hb.1 hb.2
      skipped := fun _ => echoes_pure () }

/-- **What a section reads** decides the packages that it declares. -/
theorem echoes_dependencies {sec : Section} (h : sec.DependsOn N) :
    Echoes N (dependencies host sec) (dependencies host sec) :=
  relates_walk (relates_echoes host _) h

theorem echoes_collectNamed {a : Assistant} : ∀ {names : List String},
    (∀ name ∈ names, ∀ sec, a.sections.get? name = some sec → sec.DependsOn N) →
      Echoes N (collectNamed host a names) (collectNamed host a names)
  | [], _ => echoes_pure []
  | name :: rest, h => by
    have hrest := echoes_collectNamed fun n hn => h n (List.mem_cons_of_mem _ hn)
    rw [collectNamed]
    split
    · exact hrest
    · rename_i sec hsec
      exact (echoes_log _ _ _).bind fun _ =>
        compositional_echoes.andThen
          (echoes_dependencies host (h name List.mem_cons_self sec hsec)) hrest

/-- Which sections count is decided by the arguments that they are for. -/
theorem dependencySections_congr {a : Assistant} {vars vars' : Vars}
    (h : ∀ name ∈ a.sections.keys, ∀ arg,
      Text.stripPrefix? (dependenciesSectionName ++ "_") name = some arg →
        vars'.get? arg = vars.get? arg) :
    dependencySections a vars' = dependencySections a vars := by
  refine congrArg (dependenciesSectionName :: ·) (List.filter_congr fun name hname => ?_)
  rcases hs : Text.stripPrefix? (dependenciesSectionName ++ "_") name with _ | arg
  · rfl
  · simp only [Option.bind_some, h name hname arg hs]

theorem echoes_assistantDependencies {a : Assistant} (h : a.DependsOn N) :
    Echoes N (assistantDependencies host a) (assistantDependencies host a) := by
  refine echoes_context fun s t hst => ?_
  rw [dependencySections_congr fun name hname arg harg =>
    hst.vars arg (h.chosen name hname arg harg).1]
  refine echoes_forked (echoes_collectNamed host fun name hname sec hsec => ?_)
    (fun c => { c with kind := .dependencies, assistant := a })
    (fun _ => rfl) (fun _ => rfl) s t hst
  rcases List.mem_cons.mp hname with rfl | hname
  · exact h.general sec hsec
  · obtain ⟨hkey, hchosen⟩ := List.mem_filter.mp hname
    rcases hs : Text.stripPrefix? (dependenciesSectionName ++ "_") name with _ | arg <;>
      rw [hs] at hchosen
    · cases hchosen
    · exact (h.chosen name hkey arg hs).2 sec hsec

/-- **What assistants read** decides what they depend on. -/
theorem echoes_chainDependencies : ∀ {chain : List Assistant}, (∀ a ∈ chain, a.DependsOn N) →
    Echoes N (chainDependencies host chain) (chainDependencies host chain)
  | [], _ => echoes_pure []
  | a :: _, h =>
    compositional_echoes.andThen (echoes_assistantDependencies host (h a List.mem_cons_self))
      (echoes_chainDependencies fun b hb => h b (List.mem_cons_of_mem _ hb))

end Collecting

end Echoes

end Run

end Scaffold
