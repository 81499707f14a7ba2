import Scaffold.Proofs.Evaluation
import Scaffold.Proofs.Expression
import Scaffold.Proofs.HeaderStyle

/-!
# Negation and the spellings of a variable

With `not` in front, an expression asks the same query and comes out the other way round. If the one
is malformed, so is the other, and the errors are of one kind, though they may quote the whole text
and so the `not`. It does not go for an expression that begins with `not` already, since only one
`not` is taken off.

A variable can be written in four ways, and it makes no difference which.

* `SyntaxError.Requoted`: the errors of two texts, of one kind.
* `Opposed`: what comes out of an expression and of its negation.
* `spellings`: the ways to write a variable.

Results:
* `Query.read_requoted`: the query that is read does not depend on the text that errors quote.
* **`read_not`**: what is read of an expression and of its negation.
* **`evaluate_not`**: both do the same, and come out opposed.
* `evaluate_spelling`, `evaluate_defined`: all spellings of a variable are read alike, by themselves
  and after `defined`.
* **`negated_opposed_and_spelled_alike`**: all of this.
-/

namespace Scaffold

open Chars

/-! ## Blanks behind a fixed text -/

namespace Chars

variable {cs : List Char}

/-- What is dropped at both ends. -/
theorem exists_blanks_trim (cs : List Char) :
    ∃ b b', Blanks b ∧ Blanks b' ∧ cs = b ++ (trim cs ++ b') := by
  obtain ⟨b, hb, hstart⟩ := exists_blanks_trimStart cs
  obtain ⟨b', hb', hend⟩ := exists_blanks_trimEnd (trimStart cs)
  refine ⟨b, b', hb, hb', ?_⟩
  rw [trim, ← hend]
  exact hstart

theorem blanks_of_trim_eq_nil (h : trim cs = []) : Blanks cs := by
  obtain ⟨b, b', hb, hb', hcs⟩ := exists_blanks_trim cs
  rw [h, List.nil_append] at hcs
  rw [hcs]
  exact List.forall_mem_append.mpr ⟨hb, hb'⟩

/-- Behind a fixed text, blanks are trimmed at the end alone. -/
theorem trim_prefixed {p : List Char} (hp : Flush p) (hne : p ≠ []) (h : trim cs ≠ []) :
    ∃ b, Blanks b ∧ trim (p ++ cs) = p ++ (b ++ trim cs) := by
  obtain ⟨b, b', hb, hb', hcs⟩ := exists_blanks_trim cs
  have hlast : Flush ((p ++ b) ++ trim cs).reverse := by
    rw [List.reverse_append]
    exact (tight_trim cs).last.append (by simpa using h) _
  have htight : Tight (p ++ (b ++ trim cs)) := by
    refine ⟨hp.append hne _, ?_⟩
    rwa [← List.append_assoc]
  refine ⟨b, hb, ?_⟩
  have hpadded := LoopHeader.trim_padded (b := []) nofun hb' htight (by simp [hne])
  conv_lhs => rw [hcs]
  simpa only [List.nil_append, List.append_assoc] using hpadded

end Chars

/-! ## Reading a negation -/

/-- Errors of one kind about two texts: each quotes its text as a whole, or both the same part. -/
inductive SyntaxError.Requoted (raw raw' : String) : SyntaxError → SyntaxError → Prop
  | invalidExpression : Requoted raw raw' (.invalidExpression raw) (.invalidExpression raw')
  | invalidVariable (reference : String) :
    Requoted raw raw' (.invalidVariable reference) (.invalidVariable reference)

theorem requoted_of_variableName {raw raw' reference : String} {x : SyntaxError}
    (h : variableName reference = .error x) : SyntaxError.Requoted raw raw' x x := by
  rw [variableName] at h
  split at h
  · cases h
    exact .invalidVariable reference
  · dsimp only at h
    split at h <;> cases h
    exact .invalidVariable reference

/-- The text that an error may quote does not matter to the query that is read. -/
theorem Query.read_requoted (raw raw' : String) (cs : List Char) :
    (∃ q, Query.read raw cs = .ok q ∧ Query.read raw' cs = .ok q) ∨
      ∃ x x', Query.read raw cs = .error x ∧ Query.read raw' cs = .error x' ∧
        SyntaxError.Requoted raw raw' x x' := by
  have hname : ∀ (reference : String) (mk : String → Query),
      (∃ q, (variableName reference).map mk = .ok q) ∨
        ∃ x, (variableName reference).map mk = .error x ∧ SyntaxError.Requoted raw raw' x x := by
    intro reference mk
    rcases h : variableName reference with x | name
    · exact .inr ⟨x, rfl, requoted_of_variableName h⟩
    · exact .inl ⟨mk name, rfl⟩
  simp only [Query.read]
  split
  · split
    · exact .inl ⟨_, rfl, rfl⟩
    · exact .inr ⟨_, _, rfl, rfl, .invalidExpression⟩
  · split
    · rcases hname (String.ofList cs) .variable with ⟨q, h⟩ | ⟨x, h, hx⟩
      · exact .inl ⟨q, h, h⟩
      · exact .inr ⟨x, x, h, h, hx⟩
    · split
      · rename_i rest _
        rcases hname (String.ofList rest) .defined with ⟨q, h⟩ | ⟨x, h, hx⟩
        · exact .inl ⟨q, h, h⟩
        · exact .inr ⟨x, x, h, h, hx⟩
      · exact .inr ⟨_, _, rfl, rfl, .invalidExpression⟩

/-- No `not` is taken off a text that does not begin with one. -/
theorem stripNot_trim {raw : String} (h : Text.startsWith "not " (Text.trim raw) = false) :
    stripNot (trim raw.toList) = (false, trim raw.toList) := by
  rcases hstrip : stripPrefix? "not ".toList (trim raw.toList) with _ | rest
  · rw [stripNot, hstrip]
  · have hprefix : "not ".toList <+: (Text.trim raw).toList :=
      ⟨rest, (stripPrefix?_eq_some_iff.mp hstrip).symm.trans String.toList_ofList.symm⟩
    rw [Text.startsWith_iff.mpr hprefix] at h
    cases h

/-- Behind `not`, a text is read as it is by itself. -/
theorem stripNot_not {cs : List Char} (h : trim cs ≠ []) :
    stripNot (trim ("not ".toList ++ cs)) = (true, trim cs) := by
  obtain ⟨b, hb, htrim⟩ :=
    trim_prefixed (p := "not ".toList) (flush_cons (by decide) _) (by decide) h
  rw [htrim, stripNot, stripPrefix?_append]
  dsimp only
  rw [trimStart_append hb, trimStart_of_flush (tight_trim cs).first]

/-- A `not` with nothing behind it is no negation, but malformed. -/
theorem trim_not_blank {cs : List Char} (h : trim cs = []) :
    trim ("not ".toList ++ cs) = "not".toList := by
  have hblank : Blanks (' ' :: cs) :=
    List.forall_mem_cons.mpr ⟨by decide, blanks_of_trim_eq_nil h⟩
  have htight : Tight "not".toList := ⟨flush_cons (by decide) _, flush_cons (by decide) _⟩
  exact LoopHeader.trim_padded (b := []) nofun hblank htight (by decide)

/-- **What is read of a negation**: the query of the expression, turned round, or an error of the
same kind. -/
theorem read_not {raw : String} (h : Text.startsWith "not " (Text.trim raw) = false) :
    (∃ q, Expr.read raw = .ok ⟨false, q⟩ ∧ Expr.read ("not " ++ raw) = .ok ⟨true, q⟩) ∨
      ∃ x x', Expr.read raw = .error x ∧ Expr.read ("not " ++ raw) = .error x' ∧
        SyntaxError.Requoted raw ("not " ++ raw) x x' := by
  rw [Expr.read, Expr.read, stripNot_trim h, String.toList_append]
  by_cases hblank : trim raw.toList = []
  · rw [hblank, trim_not_blank hblank]
    exact .inr ⟨_, _, rfl, rfl, .invalidExpression⟩
  · rw [stripNot_not hblank]
    dsimp only
    rcases Query.read_requoted raw ("not " ++ raw) (trim raw.toList) with
      ⟨q, hq, hq'⟩ | ⟨x, x', hx, hx', hkind⟩
    · rw [hq, hq']
      exact .inl ⟨q, rfl, rfl⟩
    · rw [hx, hx']
      exact .inr ⟨x, x', rfl, rfl, hkind⟩

/-! ## Evaluating a negation -/

/-- What comes out of an expression and of its negation: the same value with the other logical
result, or syntax errors of the same kind. -/
inductive Opposed (raw raw' : String) :
    Except Failure Evaluated → Except Failure Evaluated → Prop
  | ok (logical : Bool) (value : Value) :
    Opposed raw raw' (.ok ⟨logical, value⟩) (.ok ⟨!logical, value⟩)
  | error {x x' : SyntaxError} (h : x.Requoted raw raw' x') :
    Opposed raw raw' (.error (.error (.syntaxFault x))) (.error (.error (.syntaxFault x')))

section

variable {W : Type} (host : Host W)

open Run

/-- **A negation does what the expression does**: the context and the host end up in the same state
and the same events happen, but that each has its own text recorded as evaluated. What comes out is
opposed. -/
theorem evaluate_not {raw : String} (h : Text.startsWith "not " (Text.trim raw) = false)
    (s : State W) :
    ∃ r r' c w new, Opposed raw ("not " ++ raw) r r' ∧
      evaluate host (.text raw) s = (r, ⟨c, ⟨w, s.world.cancelled,
        new ++ .evaluated (.text raw) :: s.world.events⟩⟩) ∧
      evaluate host (.text ("not " ++ raw)) s = (r', ⟨c, ⟨w, s.world.cancelled,
        new ++ .evaluated (.text ("not " ++ raw)) :: s.world.events⟩⟩) := by
  obtain ⟨q, hread, hread'⟩ | ⟨x, x', hread, hread', hkind⟩ := read_not h
  · obtain ⟨a, t, hask, heval⟩ := evaluate_of_read host hread s
    obtain ⟨a', t', hask', heval'⟩ := evaluate_of_read host hread' s
    -- the query does not look at the events, so it is answered alike after either record
    obtain ⟨new, -, r, c, w, hadded⟩ :=
      (evaluates_ask host q).added s.context s.world.outside s.world.cancelled
    cases hask.symm.trans (hadded (.evaluated (.text raw) :: s.world.events))
    cases hask'.symm.trans (hadded (.evaluated (.text ("not " ++ raw)) :: s.world.events))
    refine ⟨_, _, c, w, new, ?_, heval, heval'⟩
    simpa using Opposed.ok a.logical a.value
  · exact ⟨_, _, s.context, s.world.outside, [], .error hkind,
      evaluate_of_read_error host hread s, evaluate_of_read_error host hread' s⟩

/-! ## The spellings of a variable -/

/-- The ways to write a variable in an expression. -/
def spellings (x : String) : List String :=
  ["$" ++ x, "$\x7b" ++ x ++ "\x7d", "\"$" ++ x ++ "\"", "\"$\x7b" ++ x ++ "\x7d\""]

variable {x e : String}

/-- A spelling is a reference in quotes or without. -/
theorem exists_refers_of_mem_spellings (hx : Name x.toList) (he : Text.trim e ∈ spellings x) :
    ∃ q ∈ [[], ['"']], ∃ ref, Refers Name ref x.toList ∧
      trim e.toList = q ++ (ref ++ q) := by
  have htrim : trim e.toList = (Text.trim e).toList := String.toList_ofList.symm
  rw [htrim]
  simp only [spellings, List.mem_cons, List.not_mem_nil, or_false] at he
  rcases he with he | he | he | he <;> rw [he]
  · exact ⟨[], by decide, _, .bare hx, by simp⟩
  · exact ⟨[], by decide, _, .braced hx, by simp⟩
  · exact ⟨['"'], by decide, _, .bare hx, by simp⟩
  · exact ⟨['"'], by decide, _, .braced hx, by simp⟩

/-- **A variable is evaluated** alike however it is written. -/
theorem evaluate_spelling (hx : Name x.toList) (he : Text.trim e ∈ spellings x) (s : State W) :
    evaluate host (.text e) s =
      (.ok (.ofVariable (s.context.vars.get? x)), s.note (.evaluated (.text e))) := by
  obtain ⟨q, hq, ref, href, htrim⟩ := exists_refers_of_mem_spellings hx he
  have hspelled : Expr.Spelled ⟨false, .variable x⟩ (trim e.toList) := by
    have hreference := Query.Spelled.reference hq href
    rw [String.ofList_toList] at hreference
    rw [htrim]
    exact .plain hreference
  obtain ⟨r, t, hask, heval⟩ := evaluate_of_read host hspelled.read_eq s
  cases hask
  rw [heval]
  simp

/-- **Whether a variable is defined** is found alike however it is written. -/
theorem evaluate_defined (hx : Name x.toList) (he : Text.trim e ∈ spellings x) {b : String}
    (hb : Blanks b.toList) (s : State W) :
    evaluate host (.text (b ++ ("defined " ++ e))) s =
      (.ok (.ofDefined (s.context.vars.get? x)),
        s.note (.evaluated (.text (b ++ ("defined " ++ e))))) := by
  obtain ⟨q, hq, ref, href, htrim⟩ := exists_refers_of_mem_spellings hx he
  have hspelled : Expr.Spelled ⟨false, .defined x⟩ (trim (b ++ ("defined " ++ e)).toList) := by
    have hne : trim e.toList ≠ [] := by
      obtain ⟨rest, rfl⟩ := href.exists_cons
      simp [htrim]
    obtain ⟨b', hb', hprefixed⟩ :=
      trim_prefixed (p := "defined ".toList) (flush_cons (by decide) _) (by decide) hne
    have hdefined := Query.Spelled.defined hb' ((by decide : [[], ['"']] ⊆ quotes) hq) href
    rw [String.ofList_toList, ← htrim, ← hprefixed] at hdefined
    rw [String.toList_append, String.toList_append, trim, trimStart_append hb]
    exact .plain hdefined
  obtain ⟨r, t, hask, heval⟩ := evaluate_of_read host hspelled.read_eq s
  cases hask
  rw [heval]
  simp

/-- A variable that is defined holds something, if only an empty text. -/
theorem logical_ofDefined_iff (vars : Vars) (x : String) :
    (Evaluated.ofDefined (vars.get? x)).logical = true ↔ vars.contains x = true := by
  rw [Table.contains]
  cases vars.get? x <;> exact Iff.rfl

end

open Run

/-- **Negation and spellings.** For every text that does not begin with `not`, malformed ones among
them, the negation comes out opposed to the text and does the same. And a variable whose name is a
word is evaluated alike in all its spellings, whatever blanks are around them, and so is `defined`
with any of them, which is true exactly if the variable is there. -/
theorem negated_opposed_and_spelled_alike {W : Type} (host : Host W) (s : State W) :
    (∀ raw : String, Text.startsWith "not " (Text.trim raw) = false →
      ∃ r r' c w new, Opposed raw ("not " ++ raw) r r' ∧
        evaluate host (.text raw) s = (r, ⟨c, ⟨w, s.world.cancelled,
          new ++ .evaluated (.text raw) :: s.world.events⟩⟩) ∧
        evaluate host (.text ("not " ++ raw)) s = (r', ⟨c, ⟨w, s.world.cancelled,
          new ++ .evaluated (.text ("not " ++ raw)) :: s.world.events⟩⟩)) ∧
    ∀ x e : String, Name x.toList → Text.trim e ∈ spellings x →
      evaluate host (.text e) s =
        (.ok (.ofVariable (s.context.vars.get? x)), s.note (.evaluated (.text e))) ∧
      ∀ b : String, Blanks b.toList →
        evaluate host (.text (b ++ ("defined " ++ e))) s =
          (.ok (.ofDefined (s.context.vars.get? x)),
            s.note (.evaluated (.text (b ++ ("defined " ++ e))))) ∧
        ((Evaluated.ofDefined (s.context.vars.get? x)).logical = true ↔
          s.context.vars.contains x = true) := by
  refine ⟨fun raw h => evaluate_not host h s, fun x e hx he => ?_⟩
  refine ⟨evaluate_spelling host hx he s, fun b hb => ?_⟩
  exact ⟨evaluate_defined host hx he hb s, logical_ofDefined_iff s.context.vars x⟩

/-- A host on which every path is a directory. -/
def Host.directories : Host Unit := { Host.still "" with isDir := fun _ _ => true }

/-- A state with an empty variable. -/
def emptyFoo : State Unit :=
  ⟨{ vars := Table.ofList [("foo", .text "")], workingDir := "/home" }, { outside := () }⟩

/-- A command that changes the directory does so under `not` as well; blanks are malformed with and
without it; and an empty variable is false but defined. -/
theorem negated_opposed_and_spelled_alike_foo :
    (evaluate Host.directories (.text "not $(cd src)") emptyFoo).1 = .ok ⟨false, .text ""⟩ ∧
    (evaluate Host.directories (.text "not $(cd src)") emptyFoo).2.context.workingDir =
      "/home/src" ∧
    (evaluate Host.directories (.text "not  ") emptyFoo).1 =
      .error (.error (.syntaxFault (.invalidExpression "not  "))) ∧
    (evaluate Host.directories (.text " \"$\x7bfoo\x7d\"\n") emptyFoo).1 =
      .ok ⟨false, .text ""⟩ ∧
    (evaluate Host.directories (.text "\tdefined  \"$\x7bfoo\x7d\"\n") emptyFoo).1 =
      .ok ⟨true, .text ""⟩ := by
  obtain ⟨hnot, hspelled⟩ := negated_opposed_and_spelled_alike Host.directories emptyFoo
  have hcommand : (evaluate Host.directories (.text "not $(cd src)") emptyFoo).1 =
        .ok ⟨false, .text ""⟩ ∧
      (evaluate Host.directories (.text "not $(cd src)") emptyFoo).2.context.workingDir =
        "/home/src" := by
    obtain ⟨r, r', c, w, new, hopposed, heval, heval'⟩ := hnot "$(cd src)" (by decide +kernel)
    have hplain : (evaluate Host.directories (.text "$(cd src)") emptyFoo).1 =
      .ok ⟨true, .text ""⟩ := eq_ok_of_toOption (by decide +kernel)
    have hdir : (evaluate Host.directories (.text "$(cd src)") emptyFoo).2.context.workingDir =
      "/home/src" := by decide +kernel
    rw [heval] at hplain hdir
    cases hplain
    cases hopposed
    exact ⟨congrArg Prod.fst heval', (congrArg (·.2.context.workingDir) heval').trans hdir⟩
  have hblank : (evaluate Host.directories (.text "not  ") emptyFoo).1 =
      .error (.error (.syntaxFault (.invalidExpression "not  "))) := by
    obtain ⟨r, r', c, w, new, hopposed, heval, heval'⟩ := hnot " " (by decide +kernel)
    have hplain : (evaluate Host.directories (.text " ") emptyFoo).1 =
      .error (.error (.syntaxFault (.invalidExpression " "))) := rfl
    rw [heval] at hplain
    cases hplain
    rcases hopposed with _ | ⟨⟨⟩⟩
    exact congrArg Prod.fst heval'
  have hname : Name "foo".toList := name_of_all (by decide) (by decide)
  obtain ⟨hfoo, hdefined⟩ :=
    hspelled "foo" " \"$\x7bfoo\x7d\"\n" hname (by decide +kernel)
  refine ⟨hcommand.1, hcommand.2, hblank, ?_, ?_⟩
  · rw [hfoo]
    exact eq_ok_of_toOption (by decide +kernel)
  · have htab := (hdefined "\t" (by decide)).1
    rw [show "\tdefined  \"$\x7bfoo\x7d\"\n" =
      "\t" ++ ("defined " ++ " \"$\x7bfoo\x7d\"\n") from rfl, htab]
    exact eq_ok_of_toOption (by decide +kernel)

end Scaffold
