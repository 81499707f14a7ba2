import Scaffold.Proofs.Command
import Scaffold.Proofs.Related

/-!
# What the checks at loading are good for

Scripts are checked when they are loaded, by a recursion of its own over the values they are written
as. The interpreters read the same values again, one body at a time. What the checks have passed,
the interpreters can read.

* `SyntaxError.IsShape`: a section, or the header of a loop, that does not read.
* `Entry.Sound`: the body of an entry is a section if it must be one, and its loop header reads.
* `Assistant.Built`, `Snippet.Built`: made from a script by the checks.
* `Run.Safe`: a computation that does not fail with such an error in a context over such scripts,
  and leaves the context one; `Run.SafeInterpreter`: an interpreter that runs sound sections so.

Runners that read sections of their own, the one of dependencies and the one of markers, can fail
with such an error, so they are left out.

Results:
* `sound_of_validate`: what `Section.validate` passes is sound at every depth.
* `collectSections_of_validateSections`: so the sections of a script that passed can be collected.
* `relates_safe`, **`safe_interpreter`**, **`safe_dependencies`**: sound sections are walked safely,
  and so are those that they call.
* **`checked_sections_read`**: no section of a checked script, nor any that it calls, ever fails for
  its shape.
-/

namespace Scaffold

variable {W α β : Type}

/-! ## Errors about the shape of a section -/

/-- A section, or the header of a loop, that does not read. -/
def SyntaxError.IsShape : SyntaxError → Prop
  | .invalidSection _ | .invalidFor _ => True
  | _ => False

/-- A failure about the shape of a section. -/
def Failure.IsShape : Failure → Prop
  | .error (.syntaxFault e) => e.IsShape
  | _ => False

/-- Any other failure. -/
def Failure.Mild (f : Failure) : Prop := ¬ f.IsShape

theorem Failure.mild_of_isExecution : ∀ {f : Failure}, f.IsExecution → f.Mild
  | .error (.execution _), _ => id

theorem variableName_mild {reference : String} {e : SyntaxError}
    (h : variableName reference = .error e) : ¬ e.IsShape := by
  unfold variableName at h
  split at h
  · cases h
    exact id
  · dsimp only at h
    split at h <;> cases h
    exact id

theorem query_mild {raw : String} {cs : List Char} {e : SyntaxError}
    (h : Query.read raw cs = .error e) : ¬ e.IsShape := by
  have hname : ∀ {reference : String} {f : String → Query},
      (variableName reference).map f = .error e → ¬ e.IsShape := by
    intro reference f h
    rcases hv : variableName reference with x | n <;> rw [hv] at h <;> cases h
    exact variableName_mild hv
  unfold Query.read at h
  split at h
  · split at h <;> cases h
    exact id
  · split at h
    · exact hname h
    · split at h
      · exact hname h
      · cases h
        exact id

theorem expr_mild {raw : String} {e : SyntaxError} (h : Expr.read raw = .error e) :
    ¬ e.IsShape := by
  unfold Expr.read at h
  rcases hq : Query.read raw (stripNot (Chars.trim raw.toList)).2 with x | q
  · simp only [hq, Except.map] at h
    cases h
    exact query_mild hq
  · simp only [hq, Except.map] at h
    cases h

theorem assignedNames_mild {target : String} {e : SyntaxError}
    (h : assignedNames target = .error e) : ¬ e.IsShape := by
  unfold assignedNames at h
  split at h
  · rename_i name _
    rcases hv : variableName name with x | n <;> rw [hv] at h <;> cases h
    exact variableName_mild hv
  · rename_i first second _
    rcases hv : variableName first with x | n
    · rw [hv] at h
      cases h
      exact variableName_mild hv
    · rcases hw : variableName second with x | m
      · rw [hv, hw] at h
        cases h
        exact variableName_mild hw
      · rw [hv, hw] at h
        cases h
  · cases h
    exact id

theorem rounds_mild {header : LoopHeader} {v : Value} {e : SyntaxError}
    (h : header.rounds v = .error e) : ¬ e.IsShape := by
  unfold LoopHeader.rounds at h
  split at h
  · split at h <;> cases h
    exact id
  · split at h <;> cases h

theorem commandFormat_mild {c : Context} {command : Command} {e : SyntaxError}
    (h : command.format c = .error e) : ¬ e.IsShape := by
  unfold Command.format at h
  dsimp only at h
  split at h <;> cases h <;> exact id

/-! ## What the checks have passed -/

/-- An entry whose body is a section if it must be one, and whose loop header, if any, reads. -/
structure Entry.Sound (e : Entry) : Prop where
  body : (Construct.ofTag e.tag).hasBody = true → ∃ b, e.body = .ok b
  header : Construct.ofTag e.tag = .loop → ∃ h, LoopHeader.read e.tag = .ok h

/-- A section of sound entries, at every depth. -/
def Section.Sound (s : Section) : Prop := ∀ e ∈ s.nested, e.Sound

theorem Section.sound_nil : Section.Sound [] := by
  rw [Section.Sound, Section.nested_nil]
  nofun

theorem Section.sound_cons {e : Entry} {rest : Section} (he : e.Sound)
    (hbody : (Construct.ofTag e.tag).hasBody = true → ∀ b, e.body = .ok b → Section.Sound b)
    (hrest : Section.Sound rest) : Section.Sound (e :: rest) := by
  intro f hf
  rw [Section.nested_cons] at hf
  rcases List.mem_cons.mp hf with rfl | hf
  · exact he
  rcases List.mem_append.mp hf with hf | hf
  · split at hf
    · rename_i hc
      split at hf
      · rename_i b hb
        exact hbody hc b hb f hf
      · cases hf
    · cases hf
  · exact hrest f hf

theorem Entry.body_of_ofValue {e : Entry} {b : Section} (h : Section.ofValue e.argument = .ok b) :
    e.body = .ok b := by
  rw [Entry.body, h]
  rfl

theorem Section.validate_cons (name : String) (e : Entry) (rest : Section) :
    Section.validate name (e :: rest) = (do
      if Construct.ofTag e.tag = .loop then
        let _ ← (LoopHeader.read e.tag).mapError (SyntaxError.inSection name)
      if (Construct.ofTag e.tag).hasBody then
        let body ← (Section.ofValue e.argument).mapError (SyntaxError.inSection name)
        Section.validate name body
      Section.validate name rest) := by
  rw [Section.validate]
  refine ite_congr rfl (fun _ => ?_) fun _ => ?_
  · refine congrArg _ (funext fun _ => ite_congr rfl (fun _ => ?_) fun _ => rfl)
    split <;> rename_i h <;> rw [h] <;> rfl
  · refine ite_congr rfl (fun _ => ?_) fun _ => rfl
    split <;> rename_i h <;> rw [h] <;> rfl

/-- What the check of a section looked at, if it passed. -/
theorem Section.of_validate_cons {name : String} {e : Entry} {rest : Section}
    (h : Section.validate name (e :: rest) = .ok ()) :
    (Construct.ofTag e.tag = .loop → ∃ header, LoopHeader.read e.tag = .ok header) ∧
      ((Construct.ofTag e.tag).hasBody = true →
        ∃ b, Section.ofValue e.argument = .ok b ∧ Section.validate name b = .ok ()) ∧
      Section.validate name rest = .ok () := by
  have hbodies : ∀ {r : Except ConfigError Unit}, (do
      if (Construct.ofTag e.tag).hasBody then
        let body ← (Section.ofValue e.argument).mapError (SyntaxError.inSection name)
        Section.validate name body
      r) = .ok () →
      ((Construct.ofTag e.tag).hasBody = true →
        ∃ b, Section.ofValue e.argument = .ok b ∧ Section.validate name b = .ok ()) ∧
        r = .ok () := by
    intro r h
    split at h
    · obtain ⟨b, hv, h⟩ := exists_of_bind_ok h
      obtain ⟨_, hb, h⟩ := exists_of_bind_ok h
      exact ⟨fun _ => ⟨b, eq_ok_of_mapError hv, hb⟩, h⟩
    · rename_i hc
      exact ⟨fun hc' => absurd hc' hc, h⟩
  rw [Section.validate_cons] at h
  dsimp only at h
  split at h
  · obtain ⟨header, hh, h⟩ := exists_of_bind_ok h
    exact ⟨fun _ => ⟨header, eq_ok_of_mapError hh⟩, hbodies h⟩
  · rename_i hl
    exact ⟨fun hl' => absurd hl' hl, hbodies h⟩

/-- **What `Section.validate` passes** is sound at every depth. -/
theorem sound_of_validate {name : String} (sec : Section)
    (h : Section.validate name sec = .ok ()) : sec.Sound := by
  match sec with
  | [] => exact Section.sound_nil
  | e :: rest =>
    obtain ⟨hheader, hbody, hrest⟩ := Section.of_validate_cons h
    have hafter := sound_of_validate rest hrest
    refine Section.sound_cons ⟨fun hc => ?_, hheader⟩ (fun hc b hb => ?_) hafter
    · obtain ⟨b, hv, -⟩ := hbody hc
      exact ⟨b, Entry.body_of_ofValue hv⟩
    · obtain ⟨b', hv, hvalid⟩ := hbody hc
      cases (Entry.body_of_ofValue hv).symm.trans hb
      exact sound_of_validate b hvalid
termination_by Section.size sec
decreasing_by
  · simp only [Section.size_cons, Entry.size]
    omega
  · have := Entry.size_body_lt hb
    simp only [Section.size_cons]
    omega

/-- A value that passes the check reads as a section, and a sound one. -/
theorem ofValue_of_validateSection {name : String} {v : Value}
    (h : validateSection name v = .ok ()) : ∃ sec, Section.ofValue v = .ok sec ∧ sec.Sound := by
  obtain ⟨sec, hv, h⟩ := exists_of_bind_ok h
  exact ⟨sec, eq_ok_of_mapError hv, sound_of_validate sec h⟩

/-! ## Checked scripts -/

/-- Sections by name, all of which are sound. -/
def SoundSections (t : Table Section) : Prop := ∀ name sec, t.get? name = some sec → sec.Sound

theorem SoundSections.insert {t : Table Section} (h : SoundSections t) {sec : Section}
    (hsec : sec.Sound) (key : String) : SoundSections (t.insert key sec) := by
  intro name sec' hget
  rw [Table.get?_insert] at hget
  split at hget
  · cases hget
    exact hsec
  · exact h name sec' hget

/-- **The sections of a script** that passed the check can be collected, and are sound. -/
theorem collectSections_of_validateSections :
    ∀ {entries : List (String × Value)} {t : Table Section},
    validateSections entries = .ok () → SoundSections t →
      ∃ t', collectSections entries t = .ok t' ∧ SoundSections t'
  | [], t, _, ht => ⟨t, rfl, ht⟩
  | (key, v) :: rest, t, h, ht => by
    rw [validateSections] at h
    rw [collectSections]
    split at h
    · rename_i hk
      obtain ⟨_, hv, hrest⟩ := exists_of_bind_ok h
      obtain ⟨sec, hread, hsec⟩ := ofValue_of_validateSection hv
      rw [if_pos hk, hread]
      exact collectSections_of_validateSections hrest (ht.insert hsec key)
    · rename_i hk
      rw [if_neg hk]
      exact collectSections_of_validateSections h ht

theorem soundSections_empty : SoundSections ∅ := fun _ sec h =>
  nomatch (h : (none : Option Section) = some sec)

/-- A script that passes the checks has sections that can be collected. -/
theorem collectSections_of_validate {script : Script} (h : script.validate = .ok ()) :
    ∃ t, collectSections script.rest.entries ∅ = .ok t ∧ SoundSections t := by
  obtain ⟨_, -, h⟩ := exists_of_bind_ok h
  obtain ⟨_, hsections, -⟩ := exists_of_bind_ok h
  exact collectSections_of_validateSections hsections soundSections_empty

/-- An assistant made from a script by the checks, with the directory of its files. -/
def Assistant.Built (a : Assistant) : Prop :=
  ∃ name script b, Assistant.ofScript name script = .ok b ∧ a = { b with filesDir := a.filesDir }

/-- A snippet made from a script by the checks, with the directory of its files. -/
def Snippet.Built (s : Snippet) : Prop :=
  ∃ name script b, Snippet.ofScript name script = .ok b ∧ s = { b with filesDir := s.filesDir }

theorem Assistant.Built.sound {a : Assistant} (h : a.Built) : SoundSections a.sections := by
  obtain ⟨name, script, b, hb, ha⟩ := h
  obtain ⟨_, hvalid, hb⟩ := exists_of_bind_ok hb
  obtain ⟨t, ht, hsound⟩ := collectSections_of_validate hvalid
  rw [ht] at hb
  cases hb
  rw [ha]
  exact hsound

theorem Snippet.Built.sound {s : Snippet} (h : s.Built) : SoundSections s.sections := by
  obtain ⟨name, script, b, hb, hs⟩ := h
  obtain ⟨_, hvalid, hb⟩ := exists_of_bind_ok hb
  obtain ⟨t, ht, hsound⟩ := collectSections_of_validate hvalid
  rw [ht] at hb
  cases hb
  rw [hs]
  exact hsound

/-- A context over an assistant and snippets that were made by the checks. -/
structure Context.Built (c : Context) : Prop where
  assistant : c.assistant.Built
  snippets : ∀ name s, c.library.snippet? name = some s → s.Built

/-- A section of an assistant or of a snippet that was made by the checks. -/
inductive Section.Built (sec : Section) : Prop
  | ofAssistant {a : Assistant} {name : String} : a.Built → a.sections.get? name = some sec →
      Section.Built sec
  | ofSnippet {s : Snippet} {name : String} : s.Built → s.sections.get? name = some sec →
      Section.Built sec

theorem Section.Built.sound {sec : Section} : sec.Built → sec.Sound
  | .ofAssistant h hget => h.sound _ _ hget
  | .ofSnippet h hget => h.sound _ _ hget

/-- A section that a call finds was made by the checks. -/
theorem Context.Built.callee {c : Context} (h : c.Built) {kind : SectionKind} {target : String}
    {callee : Callee} (hcallee : c.resolve? kind target = some callee) :
    callee.entries.Built := by
  unfold Context.resolve? at hcallee
  dsimp only at hcallee
  split at hcallee
  · obtain ⟨entries, hget, rfl⟩ := Option.map_eq_some_iff.mp hcallee
    exact .ofAssistant h.assistant hget
  · obtain ⟨snippet, hsnippet, hentries⟩ := Option.bind_eq_some_iff.mp hcallee
    obtain ⟨entries, hget, rfl⟩ := Option.map_eq_some_iff.mp hentries
    exact .ofSnippet (h.snippets _ _ hsnippet) hget

theorem Context.Built.of_aligned {c d : Context} (h : c.Built) (ha : c.Aligned d) : d.Built where
  assistant := ha.assistant ▸ h.assistant
  snippets := ha.library ▸ h.snippets

namespace Run

/-! ## Safe computations -/

/-- A computation that, in a context over checked scripts, does not fail for the shape of a section,
and leaves the context one over checked scripts. -/
def Safe (x : Run W α) : Prop :=
  ∀ s, s.context.Built → (x s).2.context.Built ∧ ∀ f, (x s).1 = .error f → f.Mild

theorem Confined.safe {N : String → Prop} {x : Run W α} (h : Confined N Failure.Mild x) :
    Safe x := fun s hs => ⟨hs.of_aligned (h.stays s).context, h.errs s⟩

theorem safe_exhausted : Safe (exhausted : Run W α) :=
  fun _ hs => ⟨hs, fun f h => by cases h; exact id⟩

theorem Safe.bind {x : Run W α} {f : α → Run W β} (hx : Safe x) (hf : ∀ a, Safe (f a)) :
    Safe (x >>= f) := by
  intro s hs
  obtain ⟨hbuilt, hmild⟩ := hx s hs
  rcases hxs : x s with ⟨e | a, t⟩ <;> rw [hxs] at hbuilt hmild
  · rw [bind_of_error hxs]
    exact ⟨hbuilt, fun f h => by cases h; exact hmild e rfl⟩
  · rw [bind_of_ok hxs]
    exact hf a t hbuilt

theorem safe_pure (a : α) : Safe (pure a : Run W α) := fun _ hs => ⟨hs, nofun⟩

theorem safe_fail {e : Error} (h : (Failure.error e).Mild) : Safe (fail e : Run W α) :=
  fun _ hs => ⟨hs, fun _ hf => by cases hf; exact h⟩

theorem safe_record (e : Event) : Safe (record e : Run W Unit) := fun _ hs => ⟨hs, nofun⟩

theorem safe_isCancelled : Safe (isCancelled : Run W Bool) := fun _ hs => ⟨hs, nofun⟩

theorem safe_log (o : Origin) (l : Level) (m : String) : Safe (log o l m : Run W Unit) :=
  safe_record _

theorem safe_context : Safe (context : Run W Context) := fun _ hs => ⟨hs, nofun⟩

theorem safe_withScope {x : Run W α} (hx : Safe x) (labels : List String) :
    Safe (withScope labels x) := by
  intro s hs
  obtain ⟨hbuilt, hmild⟩ := hx (s.inScope labels) ⟨hs.assistant, hs.snippets⟩
  exact ⟨⟨hbuilt.assistant, hbuilt.snippets⟩, hmild⟩

/-! ### Evaluation is safe -/

section Evaluation

variable (host : Host W)

theorem mild_ofSyntax {r : Except SyntaxError α} (h : ∀ e, r = .error e → ¬ e.IsShape) :
    Confined noName Failure.Mild (ofSyntax r : Run W α) := by
  cases r with
  | ok a => exact confined_pure a
  | error e => exact confined_fail (h e rfl)

theorem mild_runShell (command : String) (options : ShellOptions) :
    Confined noName Failure.Mild (runShell host command options) :=
  (confined_runShell host command options).mono (fun _ => id) fun _ => Failure.mild_of_isExecution

theorem mild_evaluate (expression : Value) :
    Confined noName Failure.Mild (evaluate host expression) := by
  refine (confined_record rfl).bind fun _ => ?_
  split
  · exact (mild_ofSyntax fun e => expr_mild).bind fun e =>
      (confined_ask host e.query).anyFailure.bind fun _ => confined_pure _
  · exact confined_pure _

theorem safe_assign (target : String) (expression : Value) :
    Safe (assign host target expression) := by
  refine (mild_ofSyntax fun e => assignedNames_mild).safe.bind fun names =>
    (mild_evaluate host expression).safe.bind fun r => ?_
  have hset : ∀ name v, Confined anyName Failure.Mild (setVar name v : Run W Unit) :=
    fun name v => confined_setVar trivial v
  split
  · exact (hset _ _).safe
  · exact (hset _ _).safe.bind fun _ => (hset _ _).safe

theorem safe_condition (tag : String) : Safe (condition host tag) :=
  (mild_evaluate host _).safe.bind fun _ => safe_pure _

/-- The rounds of a loop are found safely, if its header reads. -/
theorem safe_expandLoop {tag : String} {header : LoopHeader}
    (h : LoopHeader.read tag = .ok header) :
    Safe (expandLoop host tag) := by
  unfold expandLoop
  rw [h]
  exact (safe_pure header).bind fun header => (mild_evaluate host _).safe.bind fun r =>
    (mild_ofSyntax fun e => rounds_mild).safe

end Evaluation

/-! ## Walks of sound sections are safe -/

theorem compositional_safe : Compositional (W := W) fun _ x _ => Safe x where
  value := safe_pure
  sequence := Safe.bind
  scope labels h := safe_withScope h labels
  bindings b :=
    have hbind : Confined anyName Failure.Mild (bindAll b : Run W Unit) :=
      (confined_bindAll fun _ _ => trivial).anyFailure
    hbind.safe
  cancelled := safe_isCancelled
  message := safe_log

/-- The constructs of a block keep safety, if its entries are sound and its leaves are safe. -/
theorem relates_safe (host : Host W) {p : Walker W α} (hleaf : ∀ e, Safe (p.leaf e))
    (hskip : ∀ e, Safe (p.skipped e)) :
    Relates host p p (Block.Reads Entry.Sound) fun x _ => Safe x :=
  compositional_safe.relates
    { assign := fun _ => safe_assign host _ _
      condition := fun _ _ => safe_condition host _
      rounds := fun hb => by
        obtain ⟨header, hread⟩ := hb.2.1.header hb.1
        exact safe_expandLoop host hread
      malformed := fun hb hx => by
        obtain ⟨e, he, hc, hbody⟩ := hb.malformed hx
        obtain ⟨b, hb⟩ := he.body hc
        rw [hb] at hbody
        cases hbody
      leaf := fun _ => hleaf _
      skipped := hskip }

/-- A called section is run safely, if all sections that the checks made are. -/
theorem safe_called {kind : SectionKind} {target : String} {go : Section → Run W α} {otherwise : α}
    (hgo : ∀ sec : Section, sec.Sound → Safe (go sec)) :
    Safe (called kind target go otherwise) := by
  intro s hs
  refine called_cases (P := fun r t => t.context.Built ∧ ∀ f, r = .error f → f.Mild)
    ⟨hs, nofun⟩ ⟨hs, ?_⟩ ?_
  · rintro f ⟨⟩
    exact id
  · intro callee hcallee _
    obtain ⟨-, hmild⟩ := hgo _ (hs.callee hcallee).sound (s.entering kind target callee)
      ⟨hs.assistant, hs.snippets⟩
    exact ⟨hs, hmild⟩

section Collecting

variable (host : Host W)

theorem safe_collect : ∀ depth (sec : Section), sec.Sound → Safe (collect host depth sec)
  | 0, _, _ => safe_exhausted
  | depth + 1, sec, hsec => by
    refine relates_walk (relates_safe host (fun e => ?_) fun e => safe_pure ()) hsec
    refine safe_context.bind fun c => ?_
    split
    · exact safe_called fun sec => safe_collect depth sec
    · split
      · exact safe_pure _
      · exact (safe_log _ _ _).bind fun _ => safe_pure _

/-- **Collecting dependencies** of a sound section is safe. -/
theorem safe_dependencies {sec : Section} (hsec : sec.Sound) : Safe (dependencies host sec) :=
  safe_collect host _ sec hsec

end Collecting

/-! ## Runs of sound sections are safe -/

/-- An interpreter that runs sound sections, and any command, safely. -/
structure SafeInterpreter (inner : Interpreter W) : Prop where
  runSection : ∀ sec : Section, sec.Sound → Safe (inner.runSection sec)
  dispatch : ∀ command, Safe (inner.dispatch command)

/-- A runner that does not itself fail for the shape of a section. Those for dependencies and for
markers read sections of their own; one that is not built in may have sections run, and commands
carried out. -/
def PassesShapes : Runner W → Prop
  | .call | .shell | .github | .log => True
  | .extra r => ∀ inner, SafeInterpreter inner → ∀ command, Safe (r.carryOut inner command)
  | .dependencies _ | .marker => False

section Running

variable (env : Env W) {inner : Interpreter W}

theorem safe_witnessed {x : Run W Value} (hx : Safe x) (command : Command) :
    Safe (witnessed command x) := by
  intro s hs
  obtain ⟨hbuilt, hmild⟩ := hx (s.note (.dispatched command s.context)) hs
  exact ⟨hbuilt, hmild⟩

theorem safe_textArgument (command : Command) : Safe (textArgument command : Run W String) :=
  safe_context.bind fun _ => (mild_ofSyntax fun _ => commandFormat_mild).safe

theorem safe_runCall (hgo : ∀ sec : Section, sec.Sound → Safe (inner.runSection sec))
    (target : String) : Safe (runCall env.host inner.runSection target) := by
  refine safe_context.bind fun c => ?_
  split
  · exact (safe_called hgo).bind fun _ => safe_pure _
  · exact (safe_called fun sec => safe_dependencies env.host).bind fun _ => safe_pure _

theorem safe_runLog (tag message : String) : Safe (runLog tag message : Run W Unit) := by
  unfold runLog
  split
  · refine (safe_log _ _ _).bind fun _ => ?_
    split
    · exact safe_fail id
    · exact safe_pure ()
  · exact safe_log _ _ _

theorem safe_runWith (hinner : SafeInterpreter inner) (command : Command) :
    ∀ {runner : Runner W}, PassesShapes runner → Safe (runWith env inner command runner)
  | .call, _ => (safe_textArgument command).bind fun _ => safe_runCall env hinner.runSection _
  | .shell, _ => (safe_textArgument command).bind fun _ =>
      (mild_runShell env.host _ _).safe.bind fun _ => safe_pure _
  | .github, _ => (safe_textArgument command).bind fun _ =>
      ((confined_github env.host _).mono (fun _ => id)
        fun _ => Failure.mild_of_isExecution).safe.bind fun _ => safe_pure _
  | .log, _ => (safe_textArgument command).bind fun _ =>
      (safe_runLog _ _).bind fun _ => safe_pure _
  | .extra _, h => h inner hinner command

theorem safe_dispatch (hreg : ∀ r ∈ env.registry.runners, PassesShapes r)
    (hinner : SafeInterpreter inner) (command : Command) : Safe (dispatch env inner command) := by
  refine safe_witnessed ?_ command
  split
  · exact safe_fail id
  · rename_i runner hr
    exact (safe_record _).bind fun _ =>
      safe_runWith env hinner command (hreg runner (List.mem_of_find?_eq_some hr))

theorem safe_runCommand (hreg : ∀ r ∈ env.registry.runners, PassesShapes r)
    (hinner : SafeInterpreter inner) (command : Command) : Safe (runCommand env inner command) := by
  intro s hs
  obtain ⟨hbuilt, hmild⟩ := safe_dispatch env hreg hinner command s hs
  unfold runCommand
  split
  · rename_i tag t h
    rw [h] at hbuilt
    exact ⟨hbuilt, nofun⟩
  · exact ⟨hbuilt, hmild⟩

/-- **Running a sound section** is safe, to any depth of re-entries. -/
theorem safe_interpreter (hreg : ∀ r ∈ env.registry.runners, PassesShapes r) :
    ∀ depth, SafeInterpreter (interpreter env depth)
  | 0 => { runSection := fun _ _ => safe_exhausted, dispatch := fun _ => safe_exhausted }
  | depth + 1 =>
    { runSection := fun sec hsec => by
        refine Safe.bind
          (relates_walk (relates_safe env.host (fun e => ?_) fun e => safe_log _ _ _) hsec)
          fun _ => safe_pure ()
        exact (safe_runCommand env hreg (safe_interpreter hreg depth) _).bind fun _ => safe_pure _
      dispatch := safe_dispatch env hreg (safe_interpreter hreg depth) }

end Running

end Run

/-- **What the checks have passed, the interpreters can read.** A value that passes the check of a
section reads as one, so collecting the sections of a script that passed cannot fail. And over
scripts that were made by the checks, with runners that do not themselves read sections, neither
running a section of such a script nor collecting its dependencies ever fails for the shape of a
section or of a loop header, there or in any section that is called. -/
theorem checked_sections_read (env : Env W)
    (hreg : ∀ r ∈ env.registry.runners, Run.PassesShapes r) :
    (∀ name v, validateSection name v = .ok () → ∃ sec, Section.ofValue v = .ok sec) ∧
      (∀ script : Script, script.validate = .ok () →
        ∃ t, collectSections script.rest.entries ∅ = .ok t) ∧
      ∀ (sec : Section) (s : State W), sec.Built → s.context.Built →
        (∀ depth f, (Run.runSection env depth sec s).1 = .error f → ¬ f.IsShape) ∧
          ∀ f, (Run.dependencies env.host sec s).1 = .error f → ¬ f.IsShape := by
  refine ⟨fun name v h => ?_, fun script h => ?_, fun sec s hsec hs => ⟨fun depth f hf => ?_,
    fun f hf => ?_⟩⟩
  · obtain ⟨sec, hread, -⟩ := ofValue_of_validateSection h
    exact ⟨sec, hread⟩
  · obtain ⟨t, ht, -⟩ := collectSections_of_validate h
    exact ⟨t, ht⟩
  · exact ((Run.safe_interpreter env hreg depth).runSection sec hsec.sound s hs).2 f hf
  · exact (Run.safe_dependencies env.host hsec.sound s hs).2 f hf

/-- A section with a condition, a loop, a call and a message. -/
def greetingValue : Value :=
  .list
    [.mapping [(.text "if defined $names",
      .list [.mapping [(.text "for $name in $names",
        .list [.mapping [(.text "log_i", .text "Hello $name")]])]])],
    .mapping [(.text "else", .list [.mapping [(.text "call", .text "self.run_alone")]])]]

/-- A script with that section. -/
def greetingScript : Script :=
  { rest := Table.ofList
      [("run", greetingValue), ("run_alone", .list [.mapping [(.text "cl", .text "true")]])] }

/-- The assistant that the checks make of it. -/
def greeter : Assistant := (Assistant.ofScript "greeter" greetingScript).toOption.getD {}

/-- Its section. -/
def greeting : Section := (greeter.sections.get? "run").getD []

/-- Calls, the shell and messages. -/
def greetingEnv : Env Unit := ⟨Host.still "", { runners := [.call, .shell, .log] }⟩

theorem built_greeter : greeter.Built := by
  have hsome : (Assistant.ofScript "greeter" greetingScript).toOption.isSome = true := by
    decide +kernel
  obtain ⟨a, ha⟩ := Option.isSome_iff_exists.mp hsome
  refine ⟨"greeter", greetingScript, greeter, ?_, rfl⟩
  rw [greeter, ha]
  exact eq_ok_of_toOption ha

theorem built_greeting : greeting.Built := by
  have hsome : (greeter.sections.get? "run").isSome = true := by decide +kernel
  obtain ⟨sec, hsec⟩ := Option.isSome_iff_exists.mp hsome
  rw [greeting, hsec]
  exact .ofAssistant built_greeter hsec

/-- The checks pass the script, so its sections read. The run of its section reaches the one that it
calls, and fails there, as the shell does not start, but not with such an error. -/
theorem checked_sections_read_greeting :
    let s : State Unit := ⟨{ assistant := greeter }, { outside := () }⟩
    let failure := Failure.error (.execution (.commandFailed "true" none ""))
    (∃ sec, Section.ofValue greetingValue = .ok sec) ∧
      (∃ t, collectSections greetingScript.rest.entries ∅ = .ok t) ∧
      ((Run.runSection greetingEnv 2 greeting s).1 = .error failure ∧ ¬ failure.IsShape) ∧
      ∀ f, (Run.dependencies greetingEnv.host greeting s).1 = .error f → ¬ f.IsShape := by
  have hreg : ∀ r ∈ greetingEnv.registry.runners, Run.PassesShapes r := by
    simp [greetingEnv, Run.PassesShapes]
  have hvalue : validateSection "run" greetingValue = .ok () :=
    eq_ok_of_toOption (by decide +kernel)
  have hscript : greetingScript.validate = .ok () := eq_ok_of_toOption (by decide +kernel)
  have hcontext : Context.Built { assistant := greeter } := ⟨built_greeter, nofun⟩
  obtain ⟨hsection, hsections, hsafe⟩ := checked_sections_read greetingEnv hreg
  obtain ⟨hrun, hcollect⟩ :=
    hsafe greeting ⟨{ assistant := greeter }, { outside := () }⟩ built_greeting hcontext
  have hfails : (Run.runSection greetingEnv 2 greeting
      ⟨{ assistant := greeter }, { outside := () }⟩).1 =
        .error (.error (.execution (.commandFailed "true" none ""))) :=
    eq_error_of_failure? (by decide +kernel)
  exact ⟨hsection "run" greetingValue hvalue, hsections greetingScript hscript,
    ⟨hfails, hrun 2 _ hfails⟩, hcollect⟩

end Scaffold
