import Scaffold.Proofs.Agreement
import Scaffold.Proofs.Expression
import Scaffold.Proofs.PairLoop

/-!
# Assignments

An assignment counts the commas of its target, reads the names between them, evaluates its
expression and only then sets variables. Everything that can be wrong with it is wrong with its
texts, and is found before a command is run: a command that fails, or does not start, is a false
result and no error. So an assignment that fails has done nothing.

* `commas`, `writtenNames`: a target as it is written.
* `assignedTo`: what the names of a target get.
* `Run.assignBy`: an assignment step by step, with something else done for other than one or two
  names.
* `Undone`: what an assignment does that fails. `Assigned`: what one does that succeeds.
* `Run.KeepsContext`: a computation that leaves the context as it is. `ChangesDirectory`: an
  expression that need not.

Results:
* `one_or_two`: with at most one comma, one or two names are read.
* `assignBy_eq`: so it makes no difference what is done for any other number.
* `workingDir_evaluate`: only a change of directory changes the directory.
* `assign_cases`: how an assignment ends.
* **`assign_atomic`**: when an assignment succeeds, what it sets, and that it does nothing if it
  fails.
-/

namespace Scaffold

variable {W α β : Type}

/-! ## Targets -/

/-- A text is cut into one part more than there are cuts. -/
theorem Chars.length_split (p : Char → Bool) (cs : List Char) :
    (split p cs).length = cs.countP p + 1 := by
  induction cs with
  | nil => rfl
  | cons c cs ih =>
    unfold split
    by_cases hc : p c = true
    · rw [if_pos hc, List.length_cons, ih, List.countP_cons_of_pos hc]
    · rw [if_neg hc, List.countP_cons_of_neg hc, ← ih]
      rcases h : split p cs with _ | ⟨w, ws⟩
      · exact absurd h (split_ne_nil p cs)
      · rfl

/-- How many commas a target has. -/
def commas (target : String) : Nat := target.toList.countP (· == ',')

/-- The names between the commas of a target, if all of them read. -/
def writtenNames (target : String) : Except SyntaxError (List String) :=
  (Text.split ',' target).mapM variableName

theorem length_parts (target : String) :
    (Text.split ',' target).length = commas target + 1 := by
  rw [Text.split, List.length_map, Chars.length_split]
  rfl

theorem mapM_ok_iff {ε : Type} {f : α → Except ε β} : ∀ {as : List α},
    (∃ bs, as.mapM f = .ok bs) ↔ ∀ a ∈ as, ∃ b, f a = .ok b
  | [] => by
    simp [pure, Except.pure]
  | a :: as => by
    rw [List.mapM_cons, List.forall_mem_cons, ← mapM_ok_iff]
    constructor
    · rintro ⟨bs, h⟩
      obtain ⟨b, hb, h⟩ := exists_of_bind_ok h
      obtain ⟨rest, hrest, -⟩ := exists_of_bind_ok h
      exact ⟨⟨b, hb⟩, rest, hrest⟩
    · rintro ⟨⟨b, hb⟩, rest, hrest⟩
      exact ⟨b :: rest, by rw [hb, hrest]; rfl⟩

theorem length_of_mapM_ok {ε : Type} {f : α → Except ε β} : ∀ {as : List α} {bs : List β},
    as.mapM f = .ok bs → bs.length = as.length
  | [], _, h => by
    cases h
    rfl
  | a :: as, bs, h => by
    rw [List.mapM_cons] at h
    obtain ⟨b, -, h⟩ := exists_of_bind_ok h
    obtain ⟨rest, hrest, h⟩ := exists_of_bind_ok h
    cases h
    rw [List.length_cons, List.length_cons, length_of_mapM_ok hrest]

/-- As many names are read as there are commas, and one more. -/
theorem length_writtenNames {target : String} {names : List String}
    (h : writtenNames target = .ok names) : names.length = commas target + 1 := by
  rw [length_of_mapM_ok h, length_parts]

/-- With at most one comma, a target has one name or two. -/
theorem one_or_two {target : String} {names : List String} (hcommas : ¬ 1 < commas target)
    (hnames : writtenNames target = .ok names) : (∃ x, names = [x]) ∨ ∃ x y, names = [x, y] := by
  have hlength := length_writtenNames hnames
  rcases hc : commas target with _ | _ | n
  · rw [hc] at hlength
    exact .inl (List.length_eq_one_iff.mp hlength)
  · rw [hc] at hlength
    exact .inr (List.length_eq_two.mp hlength)
  · omega

/-- The names of a target are those that are written, if there is at most one comma. -/
theorem assignedNames_eq (target : String) :
    assignedNames target =
      if 1 < commas target then .error (.tooManyVariables target)
      else (writtenNames target).map fun names => (names.headD "", names[1]?) := by
  have hlength := length_parts target
  unfold assignedNames writtenNames
  match hparts : Text.split ',' target with
  | [] => simp [hparts] at hlength
  | [part] =>
    have hcommas : ¬ 1 < commas target := by
      simp [hparts] at hlength
      omega
    rw [if_neg hcommas]
    rcases hx : variableName part with e | x <;>
      simp [hx, Except.map, bind, Except.bind, pure, Except.pure]
  | [part, part'] =>
    have hcommas : ¬ 1 < commas target := by
      simp [hparts] at hlength
      omega
    rw [if_neg hcommas]
    rcases hx : variableName part with e | x <;> rcases hy : variableName part' with e' | y <;>
      simp [hx, hy, Except.map, bind, Except.bind, pure, Except.pure]
  | part :: part' :: part'' :: rest =>
    have hcommas : 1 < commas target := by
      simp [hparts] at hlength
      omega
    rw [if_pos hcommas]

theorem exists_of_assignedNames {target : String} {assigned : String × Option String}
    (h : assignedNames target = .ok assigned) :
    ¬ 1 < commas target ∧ ∃ names, writtenNames target = .ok names := by
  rw [assignedNames_eq] at h
  split at h
  · cases h
  · rename_i hcommas
    rcases hnames : writtenNames target with x | names
    · rw [hnames] at h
      cases h
    · exact ⟨hcommas, names, rfl⟩

/-- The parts between the commas of a target can all be read exactly if the names can. -/
theorem exists_writtenNames_iff {target : String} :
    (∃ names, writtenNames target = .ok names) ↔
      ∀ part ∈ Text.split ',' target, ∃ x, variableName part = .ok x :=
  mapM_ok_iff

/-- What the names of a target get: a single one the value, and of two the first the logical
result. -/
def assignedTo : List String → Evaluated → Bindings
  | [name], r => [(name, r.value)]
  | [logical, value], r => [(logical, .bool r.logical), (value, r.value)]
  | _, _ => []

theorem State.workingDir_setAll (bs : Bindings) (s : State W) :
    (bs.foldl State.set s).context.workingDir = s.context.workingDir := by
  induction bs generalizing s with
  | nil => rfl
  | cons b bs ih => exact ih (s.set b)

theorem State.aligned_setAll (bs : Bindings) (s : State W) :
    s.context.Aligned (bs.foldl State.set s).context := by
  induction bs generalizing s with
  | nil => exact .refl _
  | cons b bs ih =>
    have hset : s.context.Aligned (s.set b).context := ⟨rfl, rfl, rfl, rfl, rfl, rfl, rfl⟩
    exact hset.trans (ih (s.set b))

namespace Run

variable (host : Host W)

/-! ## Changes of directory -/

/-- A computation that leaves the context as it is. -/
def KeepsContext (x : Run W α) : Prop := ∀ s, (x s).2.context = s.context

section KeepsContext

variable {x : Run W α}

theorem keepsContext_pure (a : α) : KeepsContext (pure a : Run W α) := fun _ => rfl

theorem keepsContext_fail (e : Error) : KeepsContext (fail e : Run W α) := fun _ => rfl

theorem keepsContext_context : KeepsContext (context : Run W Context) := fun _ => rfl

theorem keepsContext_record (e : Event) : KeepsContext (record e : Run W Unit) := fun _ => rfl

theorem keepsContext_log (o : Origin) (l : Level) (m : String) :
    KeepsContext (log o l m : Run W Unit) := fun _ => rfl

theorem keepsContext_outside (f : W → α × W) : KeepsContext (outside f) := fun _ => rfl

theorem KeepsContext.bind {f : α → Run W β} (hx : KeepsContext x) (hf : ∀ a, KeepsContext (f a)) :
    KeepsContext (x >>= f) := by
  intro s
  have hs := hx s
  rcases hxs : x s with ⟨e | a, t⟩ <;> rw [hxs] at hs
  · rw [bind_of_error hxs]
    exact hs
  · rw [bind_of_ok hxs]
    exact (hf a t).trans hs

theorem keepsContext_logLines (l : Level) : ∀ lines, KeepsContext (logLines l lines : Run W Unit)
  | [] => keepsContext_pure ()
  | _ :: rest => (keepsContext_log _ _ _).bind fun _ => keepsContext_logLines l rest

theorem keepsContext_notStarted (command reason : String) (options : ShellOptions) :
    KeepsContext (notStarted command reason options : Run W String) :=
  (keepsContext_log _ _ _).bind fun _ => keepsContext_fail _

theorem keepsContext_finished (command : String) (options : ShellOptions) (f : Finished) :
    KeepsContext (finished command options f : Run W String) := by
  refine (keepsContext_logLines _ _).bind fun _ => ?_
  dsimp only
  split
  · exact keepsContext_pure _
  · split
    · exact (keepsContext_log _ _ _).bind fun _ => keepsContext_fail _
    · exact keepsContext_fail _

/-- A command line that is not a change of directory keeps the context, whatever becomes of it. -/
theorem keepsContext_runShell {command : String} (options : ShellOptions)
    (h : Text.stripPrefix? "cd " (Text.trim command) = none) :
    KeepsContext (runShell host command options) := by
  unfold runShell
  rw [h]
  refine keepsContext_context.bind fun c => (keepsContext_log _ _ _).bind fun _ => ?_
  split
  · exact keepsContext_notStarted _ _ options
  · refine (keepsContext_record _).bind fun _ => (keepsContext_outside _).bind fun r => ?_
    cases r with
    | error e => exact keepsContext_notStarted _ _ options
    | ok f => exact keepsContext_finished _ options f

end KeepsContext

theorem evaluateCommand_state (command : String) (s : State W) :
    (evaluateCommand host command s).2 =
      (runShell host (s.context.format command) .quiet s).2 := by
  unfold evaluateCommand
  split <;> rename_i h <;> rw [h]

end Run

/-- An expression that is a command, which in a context is a change of directory. -/
def ChangesDirectory (c : Context) (expression : Value) : Prop :=
  ∃ raw e line dir, expression = .text raw ∧ Expr.read raw = .ok e ∧ e.query = .command line ∧
    Text.stripPrefix? "cd " (Text.trim (c.format line)) = some dir

namespace Run

variable (host : Host W) {target : String} {names : List String} {s : State W}

theorem workingDir_ask {q : Query}
    (h : ∀ line, q = .command line →
      Text.stripPrefix? "cd " (Text.trim (s.context.format line)) = none) :
    (ask host q s).2.context.workingDir = s.context.workingDir := by
  cases q with
  | command line =>
    rw [ask, evaluateCommand_state, keepsContext_runShell host .quiet (h line rfl) s]
  | «variable» name => rfl
  | defined name => rfl

/-- **Only a change of directory changes the directory.** -/
theorem workingDir_evaluate (expression : Value) (s : State W)
    (h : (evaluate host expression s).2.context.workingDir ≠ s.context.workingDir) :
    ChangesDirectory s.context expression := by
  by_contra hnot
  refine h ?_
  cases expression with
  | text raw =>
    rcases hread : Expr.read raw with x | e
    · rw [evaluate_of_read_error host hread]
      rfl
    · obtain ⟨r, t, hask, heval⟩ := evaluate_of_read host hread s
      have hkept := workingDir_ask host (q := e.query) (s := s.note (.evaluated (.text raw)))
        fun line hline => by
          rcases hdir : Text.stripPrefix? "cd " (Text.trim (s.context.format line)) with _ | dir
          · exact hdir
          · exact absurd ⟨raw, e, line, dir, rfl, hread, hline, hdir⟩ hnot
      rw [heval]
      rw [hask] at hkept
      exact hkept
  | _ => rfl

/-! ## Assignments -/

/-- An assignment step by step. If the target has neither one nor two names, something else is
done. -/
def assignBy (otherwise : Run W Unit) (target : String) (expression : Value) : Run W Unit := do
  if 1 < commas target then fail (.syntaxFault (.tooManyVariables target))
  else
    let names ← ofSyntax (writtenNames target)
    let result ← evaluate host expression
    match names with
    | [name] => setVar name result.value
    | [logical, value] => do
      setVar logical (.bool result.logical)
      setVar value result.value
    | _ => otherwise

/-- What is wrong with a target is found before anything else is looked at. -/
theorem assign_of_target_error {x : SyntaxError} (h : assignedNames target = .error x)
    (expression : Value) (s : State W) :
    assign host target expression s = (.error (.error (.syntaxFault x)), s) := by
  rw [assign, h]
  rfl

/-- Without too many commas, an assignment evaluates and sets what the names get. -/
theorem assign_of_names (hcommas : ¬ 1 < commas target) (hnames : writtenNames target = .ok names)
    (expression : Value) :
    assign host target expression =
      evaluate host expression >>= fun r => bindAll (assignedTo names r) := by
  have hassigned : assignedNames target = .ok (names.headD "", names[1]?) := by
    rw [assignedNames_eq, if_neg hcommas, hnames]
    rfl
  rw [assign, hassigned]
  rcases one_or_two hcommas hnames with ⟨x, rfl⟩ | ⟨x, y, rfl⟩ <;> rfl

/-- Other than one or two names are never read, so it makes no difference what is done for them. -/
theorem assignBy_eq (otherwise : Run W Unit) (target : String) (expression : Value) :
    assignBy host otherwise target expression = assign host target expression := by
  unfold assignBy
  by_cases hcommas : 1 < commas target
  · rw [if_pos hcommas, assign, assignedNames_eq, if_pos hcommas]
    rfl
  · rw [if_neg hcommas]
    rcases hnames : writtenNames target with x | names
    · rw [assign, assignedNames_eq, if_neg hcommas, hnames]
      rfl
    · rw [assign_of_names host hcommas hnames]
      rcases one_or_two hcommas hnames with ⟨x, rfl⟩ | ⟨x, y, rfl⟩ <;> rfl

/-- An assignment whose target reads does what the evaluation of its expression does, and then sets
what the names get. -/
theorem assign_of_evaluate {r : Evaluated} {u : State W} {expression : Value}
    (hcommas : ¬ 1 < commas target) (hnames : writtenNames target = .ok names)
    (heval : evaluate host expression s = (.ok r, u)) :
    assign host target expression s = (.ok (), (assignedTo names r).foldl State.set u) := by
  rw [assign_of_names host hcommas hnames, bind_of_ok heval, bindAll_apply]

/-- Evaluation sets no variable. -/
theorem get?_evaluate {r : Evaluated} {u : State W} {expression : Value}
    (heval : evaluate host expression s = (.ok r, u)) (x : String) :
    u.context.vars.get? x = s.context.vars.get? x := by
  have hstays := (confined_evaluate host expression).stays s
  rw [heval] at hstays
  by_contra hx
  exact hstays.changed x hx

/-- An evaluation that fails has only noted its expression. -/
theorem evaluate_of_fails {expression : Value} {f : Failure} {t : State W}
    (h : evaluate host expression s = (.error f, t)) :
    f.IsSyntax ∧ t = s.note (.evaluated expression) := by
  cases expression with
  | text raw =>
    rcases hread : Expr.read raw with x | e
    · rw [evaluate_of_read_error host hread] at h
      cases h
      exact ⟨trivial, rfl⟩
    · obtain ⟨r, u, -, heval⟩ := evaluate_of_read host hread s
      rw [heval] at h
      cases h
  | _ => cases h

end Run

/-- What an assignment does that fails: it is malformed, and nothing was done. -/
structure Undone (f : Failure) (s t : State W) : Prop where
  malformed : f.IsSyntax
  context : t.context = s.context
  /-- What is outside of the program is as it was. -/
  outside : t.world.outside = s.world.outside
  /-- No process was asked for. -/
  launches : t.launches = s.launches

/-- What an assignment does that succeeds, from the names of its target and the result of its
expression. -/
structure Assigned (expression : Value) (names : List String) (r : Evaluated) (s t : State W) :
    Prop where
  /-- A single name gets the value. -/
  one : ∀ x, names = [x] → t.context.vars.get? x = some r.value
  /-- Of two names, the second gets the value, and the first the logical result, if it is not the
  second too. -/
  two : ∀ x y, names = [x, y] → t.context.vars.get? y = some r.value ∧
    (x ≠ y → t.context.vars.get? x = some (.bool r.logical))
  /-- There is no other number of names. -/
  number : names.length = 1 ∨ names.length = 2
  others : ∀ x, x ∉ names → t.context.vars.get? x = s.context.vars.get? x
  /-- Of the context, nothing but variables and directory may be different. -/
  rest : s.context.Aligned t.context
  directory : t.context.workingDir ≠ s.context.workingDir → ChangesDirectory s.context expression

theorem Undone.refl {f : Failure} (hf : f.IsSyntax) (s : State W) : Undone f s s :=
  ⟨hf, rfl, rfl, rfl⟩

theorem Undone.note {f : Failure} (hf : f.IsSyntax) (s : State W) (expression : Value) :
    Undone f s (s.note (.evaluated expression)) :=
  ⟨hf, rfl, rfl, by simp [State.launches, Event.launch?]⟩

/-- No other variable is set than the names of the target. -/
theorem get?_assignedTo_of_notMem (r : Evaluated) (vars : Vars) {x : String} :
    ∀ {names : List String}, x ∉ names →
      (vars.insertAll (assignedTo names r)).get? x = vars.get? x
  | [], _ | _ :: _ :: _ :: _, _ => rfl
  | [_], hx => Table.get?_insert_of_ne _ _ fun h => hx (List.mem_singleton.mpr h.symm)
  | [_, _], hx => by
    rw [List.mem_pair, not_or] at hx
    exact (Table.get?_insert_of_ne _ _ (Ne.symm hx.2)).trans
      (Table.get?_insert_of_ne _ _ (Ne.symm hx.1))

/-- What the names of a target are set to, after an evaluation. -/
theorem assigned_setAll (host : Host W) {expression : Value} {names : List String} {r : Evaluated}
    {s u : State W} (heval : Run.evaluate host expression s = (.ok r, u))
    (hnames : (∃ x, names = [x]) ∨ ∃ x y, names = [x, y]) :
    Assigned expression names r s ((assignedTo names r).foldl State.set u) where
  one := by
    rintro x rfl
    rw [State.vars_setAll]
    exact Table.get?_insert_self _ _ _
  two := by
    rintro x y rfl
    rw [State.vars_setAll]
    refine ⟨Table.get?_insert_self _ _ _, fun hxy => ?_⟩
    exact (Table.get?_insert_of_ne _ _ (Ne.symm hxy)).trans (Table.get?_insert_self _ _ _)
  number := by
    rcases hnames with ⟨x, rfl⟩ | ⟨x, y, rfl⟩
    · exact .inl rfl
    · exact .inr rfl
  others x hx := by
    rw [State.vars_setAll, get?_assignedTo_of_notMem r _ hx]
    exact Run.get?_evaluate host heval x
  rest := by
    have hstays := ((Run.confined_evaluate host expression).stays s).context
    rw [heval] at hstays
    exact hstays.trans (State.aligned_setAll _ u)
  directory hmoved := by
    rw [State.workingDir_setAll] at hmoved
    exact Run.workingDir_evaluate host expression s (by rwa [heval])

namespace Run

variable (host : Host W) {target : String} {expression : Value} {s t : State W}

/-- An assignment is refused for its target, is refused for its expression, or sets what the names
get. -/
theorem assign_cases (target : String) (expression : Value) (s : State W) :
    (∃ f, f.IsSyntax ∧ assign host target expression s = (.error f, s)) ∨
    (∃ f, f.IsSyntax ∧
      assign host target expression s = (.error f, s.note (.evaluated expression))) ∨
    ∃ names r u, ¬ 1 < commas target ∧ writtenNames target = .ok names ∧
      evaluate host expression s = (.ok r, u) ∧
      assign host target expression s = (.ok (), (assignedTo names r).foldl State.set u) := by
  rcases hassigned : assignedNames target with x | assigned
  · exact .inl ⟨.error (.syntaxFault x), trivial,
      assign_of_target_error host hassigned expression s⟩
  · obtain ⟨hcommas, names, hnames⟩ := exists_of_assignedNames hassigned
    rcases heval : evaluate host expression s with ⟨f | r, u⟩
    · obtain ⟨hf, rfl⟩ := evaluate_of_fails host heval
      refine .inr (.inl ⟨f, hf, ?_⟩)
      rw [assign_of_names host hcommas hnames, bind_of_error heval]
    · exact .inr (.inr ⟨names, r, u, hcommas, hnames, rfl,
        assign_of_evaluate host hcommas hnames heval⟩)

theorem undone_of_assign {f : Failure} (h : assign host target expression s = (.error f, t)) :
    Undone f s t := by
  rcases assign_cases host target expression s with ⟨g, hg, hassign⟩ | ⟨g, hg, hassign⟩ |
    ⟨names, r, u, -, -, -, hassign⟩ <;> rw [hassign] at h <;> cases h
  · exact .refl hg s
  · exact .note hg s expression

theorem assigned_of_assign (h : assign host target expression s = (.ok (), t)) :
    ∃ names r u, ¬ 1 < commas target ∧ writtenNames target = .ok names ∧
      evaluate host expression s = (.ok r, u) ∧ Assigned expression names r s t := by
  rcases assign_cases host target expression s with ⟨g, -, hassign⟩ | ⟨g, -, hassign⟩ |
    ⟨names, r, u, hcommas, hnames, heval, hassign⟩ <;> rw [hassign] at h <;> cases h
  exact ⟨names, r, u, hcommas, hnames, heval,
    assigned_setAll host heval (one_or_two hcommas hnames)⟩

/-- An expression can be evaluated if it is no text, or a text that can be. -/
theorem evaluate_eq_ok_iff :
    (∃ r u, evaluate host expression s = (.ok r, u)) ↔
      ∀ raw, expression = .text raw → ∃ r, (evaluate host (.text raw) s).1 = .ok r := by
  constructor
  · rintro ⟨r, u, heval⟩ raw rfl
    exact ⟨r, by rw [heval]⟩
  · intro h
    cases expression with
    | text raw =>
      obtain ⟨r, hr⟩ := h raw rfl
      exact ⟨r, _, Prod.ext hr rfl⟩
    | _ => exact ⟨_, _, rfl⟩

/-- A command can be evaluated, whatever becomes of it. -/
theorem evaluate_command {raw : String} {line : List Char}
    (hraw : Chars.trim raw.toList = "$(".toList ++ (line ++ [')'])) (s : State W) :
    ∃ r, (evaluate host (.text raw) s).1 = .ok r := by
  have hspelled : Expr.Spelled ⟨false, .command (String.ofList line)⟩ (Chars.trim raw.toList) := by
    rw [hraw]
    exact .plain (.command line)
  exact (evaluate_ok_iff host s).mpr ⟨_, hspelled.read_eq⟩

end Run

open Run

/-- **Assignments do all or nothing.** An assignment that fails is malformed, and has run no command
and changed nothing. It succeeds exactly if its target has at most one comma, the parts between the
commas are references, and its expression can be evaluated, as everything but a text can; a command
always can, whatever becomes of it. Then the names of the target get the result, no other variable
changes, and nothing else of the context but the directory, and that only by a command that is a
change of directory. What would be done for other than one or two names is never done. -/
theorem assign_atomic (host : Host W) (target : String) (expression : Value) (s : State W) :
    (∀ f t, assign host target expression s = (.error f, t) → Undone f s t) ∧
    ((∃ t, assign host target expression s = (.ok (), t)) ↔
      commas target ≤ 1 ∧ (∀ part ∈ Text.split ',' target, ∃ x, variableName part = .ok x) ∧
        ∀ raw, expression = .text raw → ∃ r, (evaluate host (.text raw) s).1 = .ok r) ∧
    (∀ raw line, Chars.trim raw.toList = "$(".toList ++ (line ++ [')']) →
      ∃ r, (evaluate host (.text raw) s).1 = .ok r) ∧
    (∀ t, assign host target expression s = (.ok (), t) →
      ∃ names r u, writtenNames target = .ok names ∧ evaluate host expression s = (.ok r, u) ∧
        Assigned expression names r s t) ∧
    ∀ otherwise, assignBy host otherwise target expression = assign host target expression := by
  refine ⟨fun f t => undone_of_assign host, ⟨?_, ?_⟩, fun raw line hraw =>
    evaluate_command host hraw s, ?_, fun otherwise => assignBy_eq host otherwise target expression⟩
  · rintro ⟨t, h⟩
    obtain ⟨names, r, u, hcommas, hnames, heval, -⟩ := assigned_of_assign host h
    exact ⟨Nat.not_lt.mp hcommas, exists_writtenNames_iff.mp ⟨names, hnames⟩,
      (evaluate_eq_ok_iff host).mp ⟨r, u, heval⟩⟩
  · rintro ⟨hcommas, hparts, hexpression⟩
    obtain ⟨names, hnames⟩ := exists_writtenNames_iff.mpr hparts
    obtain ⟨r, u, heval⟩ := (evaluate_eq_ok_iff host).mpr hexpression
    exact ⟨_, assign_of_evaluate host (Nat.not_lt.mpr hcommas) hnames heval⟩
  · intro t h
    obtain ⟨names, r, u, -, hnames, heval, hassigned⟩ := assigned_of_assign host h
    exact ⟨names, r, u, hnames, heval, hassigned⟩

end Scaffold
