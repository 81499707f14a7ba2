import Scaffold.Proofs.Command
import Scaffold.Proofs.Spelling

/-!
# What counts as an expression

A text is evaluated if it is `$(…)`, a reference to a variable, or `defined` and a reference, each
with an optional `not` in front. `Expr.Spelled` is this grammar, said without the reader. The reader
keeps to it but for one thing: it does not look at what a reference refers to. What is behind the
dollar sign of a bare reference may be any text, so `$foo bar` asks for a variable named `foo bar`
and is false, where it should be an error.

* `Query.Spelled`, `Expr.Spelled`: the texts of a query and of an expression.
* `Query.Named`: the name that a query reads is a word.
* `Query.ReadFrom`: the texts that the reader takes for a query.

Results:
* `readFrom_of_read`, `exists_of_read`: what a query and an expression are read from.
* **`read_and_named_iff`**: with words for names, a text is read exactly as what it spells.
* `evaluate_of_read`: what is read can be evaluated.
* **`evaluate_accepts_iff`**: the texts that can be evaluated, and that no other does anything.
* **`not_evaluate_accepts_only_spelled`**: a reference with more text behind it is evaluated.
-/

namespace Scaffold

open Chars

/-! ## The grammar -/

/-- The texts that ask a query. -/
inductive Query.Spelled : Query → List Char → Prop
  | command (line : List Char) :
    Spelled (.command (String.ofList line)) ("$(".toList ++ (line ++ [')']))
  | reference {q ref name : List Char} (hq : q ∈ [[], ['"']]) (h : Refers Name ref name) :
    Spelled (.variable (String.ofList name)) (q ++ (ref ++ q))
  | defined {b q ref name : List Char} (hb : Blanks b) (hq : q ∈ quotes)
    (h : Refers Name ref name) :
    Spelled (.defined (String.ofList name)) ("defined ".toList ++ (b ++ (q ++ (ref ++ q))))

/-- The texts of an expression, without blanks around them. -/
inductive Expr.Spelled : Expr → List Char → Prop
  | plain {q : Query} {cs : List Char} (h : q.Spelled cs) : Spelled ⟨false, q⟩ cs
  | negated {q : Query} {b cs : List Char} (hb : Blanks b) (h : q.Spelled cs) :
    Spelled ⟨true, q⟩ ("not ".toList ++ (b ++ cs))

/-- The name that a query reads is a word. -/
def Query.Named : Query → Prop
  | .command _ => True
  | .variable name | .defined name => Name name.toList

/-! ## From the grammar to the reader -/

namespace Query.Spelled

variable {q : Query} {cs : List Char}

theorem named (h : q.Spelled cs) : q.Named := by
  cases h with
  | command => trivial
  | reference _ h => simpa only [Query.Named, String.toList_ofList] using h.named
  | defined _ _ h => simpa only [Query.Named, String.toList_ofList] using h.named

/-- A query begins with a dollar sign, with a quote in front of one, or with `defined`. -/
theorem exists_cons (h : q.Spelled cs) :
    ∃ c rest, cs = c :: rest ∧ isBlank c = false ∧ c ≠ 'n' := by
  cases h with
  | command => exact ⟨'$', _, rfl, by decide, by decide⟩
  | reference hq h =>
    obtain ⟨rest, rfl⟩ := h.exists_cons
    rcases List.mem_pair.mp hq with rfl | rfl
    · exact ⟨'$', _, rfl, by decide, by decide⟩
    · exact ⟨'"', _, rfl, by decide, by decide⟩
  | defined => exact ⟨'d', _, rfl, by decide, by decide⟩

theorem flush (h : q.Spelled cs) : Flush cs := by
  obtain ⟨c, rest, rfl, hc, -⟩ := h.exists_cons
  exact flush_cons hc rest

theorem stripNot_eq (h : q.Spelled cs) : stripNot cs = (false, cs) := by
  obtain ⟨c, rest, rfl, -, hc⟩ := h.exists_cons
  rw [stripNot, show "not ".toList = ['n', 'o', 't', ' '] from rfl, stripPrefix?, if_neg hc.symm]

/-- A reference is no command. -/
theorem stripPrefix?_reference {quote ref name : List Char} (hquote : quote ∈ [[], ['"']])
    (h : Refers Name ref name) (ds : List Char) :
    stripPrefix? "$(".toList (quote ++ (ref ++ ds)) = none := by
  rcases List.mem_pair.mp hquote with rfl | rfl
  · cases h with
    | bare h =>
      obtain ⟨c, rest, rfl⟩ := List.exists_cons_of_ne_nil h.nonempty
      have hc : '(' ≠ c := fun hc => h.not_mem (c := '(') (by decide) (hc ▸ List.mem_cons_self)
      simp [show "$(".toList = ['$', '('] from rfl, stripPrefix?, hc]
    | braced h => rfl
  · rfl

/-- What a text spells is what is read from it. -/
theorem read_eq (h : q.Spelled cs) (raw : String) : Query.read raw cs = .ok q := by
  cases h with
  | command line =>
    have hline : stripSuffix? [')'] (line ++ [')']) = some line := stripSuffix?_eq_some_iff.mpr rfl
    rw [Query.read, stripPrefix?_append]
    dsimp only
    rw [hline]
  | @reference quote ref name hquote h =>
    have hname : variableName (String.ofList (quote ++ (ref ++ quote))) =
        .ok (String.ofList name) :=
      variableName_of_refers (b := []) nofun ((by decide : [[], ['"']] ⊆ quotes) hquote) h
    have hdollar : ((stripPrefix? ['$'] (quote ++ (ref ++ quote))).isSome ||
        (stripPrefix? ['"', '$'] (quote ++ (ref ++ quote))).isSome) = true := by
      obtain ⟨rest, rfl⟩ := h.exists_cons
      rcases List.mem_pair.mp hquote with rfl | rfl <;> rfl
    rw [Query.read, stripPrefix?_reference hquote h]
    dsimp only
    rw [if_pos hdollar, hname]
    rfl
  | @defined b quote ref name hb hquote h =>
    have hcommand : stripPrefix? "$(".toList
      ("defined ".toList ++ (b ++ (quote ++ (ref ++ quote)))) = none := rfl
    have hdollar :
        ((stripPrefix? ['$'] ("defined ".toList ++ (b ++ (quote ++ (ref ++ quote))))).isSome ||
        (stripPrefix? ['"', '$'] ("defined ".toList ++ (b ++ (quote ++ (ref ++ quote))))).isSome) =
      false := rfl
    rw [Query.read, hcommand]
    dsimp only
    rw [hdollar, if_neg (by decide), stripPrefix?_append]
    dsimp only
    rw [variableName_of_refers hb hquote h]
    rfl

end Query.Spelled

/-- What a text spells is what is read from it, blanks around it aside. -/
theorem Expr.Spelled.read_eq {e : Expr} {raw : String} (h : e.Spelled (trim raw.toList)) :
    Expr.read raw = .ok e := by
  rw [Expr.read]
  generalize trim raw.toList = cs at h
  cases h with
  | plain h =>
    rw [h.stripNot_eq]
    dsimp only
    rw [h.read_eq]
    rfl
  | @negated q b cs hb h =>
    have hstrip : stripNot ("not ".toList ++ (b ++ cs)) = (true, cs) := by
      rw [stripNot, stripPrefix?_append]
      dsimp only
      rw [trimStart_append hb, trimStart_of_flush h.flush]
    rw [hstrip]
    dsimp only
    rw [h.read_eq]
    rfl

/-! ## From the reader to the grammar -/

/-- The texts that a query is read from. What a reference refers to need not be a word. -/
inductive Query.ReadFrom : Query → List Char → Prop
  | command (line : List Char) :
    ReadFrom (.command (String.ofList line)) ("$(".toList ++ (line ++ [')']))
  | reference {cs : List Char} {name : String} (hquote : cs.head? ≠ some '\'')
    (h : variableName (String.ofList cs) = .ok name) : ReadFrom (.variable name) cs
  | defined {rest : List Char} {name : String}
    (h : variableName (String.ofList rest) = .ok name) :
    ReadFrom (.defined name) ("defined ".toList ++ rest)

theorem Query.readFrom_of_read {raw : String} {cs : List Char} {q : Query}
    (h : Query.read raw cs = .ok q) : q.ReadFrom cs := by
  rw [Query.read] at h
  split at h
  · rename_i rest hrest
    split at h
    · rename_i line hline
      cases h
      rw [stripPrefix?_eq_some_iff.mp hrest, stripSuffix?_eq_some_iff.mp hline]
      exact .command line
    · cases h
  · split at h
    · rename_i hdollar
      rcases hname : variableName (String.ofList cs) with x | name <;> rw [hname] at h <;> cases h
      refine .reference (fun hquote => ?_) hname
      rw [List.eq_cons_of_mem_head? hquote] at hdollar
      simp [stripPrefix?] at hdollar
    · split at h
      · rename_i rest hrest
        rw [stripPrefix?_eq_some_iff.mp hrest]
        rcases hname : variableName (String.ofList rest) with x | name <;> rw [hname] at h <;>
          cases h
        exact .defined hname
      · cases h

/-- The query of an expression is read from the whole text, or from what is behind `not`. -/
theorem Expr.exists_of_read {raw : String} {e : Expr} (h : Expr.read raw = .ok e) :
    ∃ cs, Query.read raw cs = .ok e.query ∧
      (e.negated = false ∧ trim raw.toList = cs ∨
        e.negated = true ∧ Flush cs ∧
          ∃ b, Blanks b ∧ trim raw.toList = "not ".toList ++ (b ++ cs)) := by
  rw [Expr.read] at h
  generalize trim raw.toList = cs at h ⊢
  rw [stripNot] at h
  split at h
  rename_i negated rest hstrip
  rcases hq : Query.read raw rest with x | q <;> rw [hq] at h <;> cases h
  split at hstrip <;> cases hstrip
  · rename_i behind hbehind
    obtain ⟨b, hb, hsplit⟩ := exists_blanks_trimStart behind
    refine ⟨trimStart behind, hq, .inr ⟨rfl, flush_trimStart behind, b, hb, ?_⟩⟩
    rw [← hsplit]
    exact stripPrefix?_eq_some_iff.mp hbehind
  · exact ⟨_, hq, .inl ⟨rfl, rfl⟩⟩

/-- What is read, with a word for its name, from a text without blanks around it. -/
theorem Query.spelled_of_read {raw : String} {cs : List Char} {q : Query} (hcs : Tight cs)
    (h : Query.read raw cs = .ok q) (hq : q.Named) : q.Spelled cs := by
  cases Query.readFrom_of_read h with
  | command line => exact .command line
  | reference hquote hname =>
    obtain ⟨quote, hmem, ref, htrim, href⟩ := refers_of_variableName hname
    rw [String.toList_ofList, trim_of_tight hcs] at htrim
    subst htrim
    have hpair : quote ∈ [[], ['"']] := by
      simp only [quotes, List.mem_cons, List.not_mem_nil, or_false] at hmem ⊢
      rcases hmem with rfl | rfl | rfl
      · exact .inl rfl
      · exact .inr rfl
      · exact absurd rfl hquote
    have hspelled := Query.Spelled.reference hpair (href.of_name hq)
    rwa [String.ofList_toList] at hspelled
  | @defined rest name hname =>
    obtain ⟨quote, hmem, ref, htrim, href⟩ := refers_of_variableName hname
    obtain ⟨b, hb, hsplit⟩ := exists_blanks_trimStart rest
    have htight : Tight (trimStart rest) := hcs.trimStart
    have hrest : trim rest = trimStart rest := by
      conv_lhs => rw [hsplit]
      exact trim_append_of_tight hb htight
    rw [String.toList_ofList, hrest] at htrim
    rw [hsplit, htrim]
    have hspelled := Query.Spelled.defined hb hmem (href.of_name hq)
    rwa [String.ofList_toList] at hspelled

/-- What is read, with a word for its name, is what the text spells. -/
theorem Expr.spelled_of_read {raw : String} {e : Expr} (h : Expr.read raw = .ok e)
    (he : e.query.Named) : e.Spelled (trim raw.toList) := by
  have htight := tight_trim raw.toList
  obtain ⟨negated, query⟩ := e
  obtain ⟨cs, hread, ⟨hnot, htrim⟩ | ⟨hnot, hflush, b, hb, htrim⟩⟩ := Expr.exists_of_read h <;>
    cases hnot <;> rw [htrim] at htight ⊢
  · exact .plain (Query.spelled_of_read htight hread he)
  · rw [← List.append_assoc] at htight
    exact .negated hb (Query.spelled_of_read (htight.of_append hflush) hread he)

/-- **Reading keeps to the grammar** where the name that is read is a word: then it reads what the
text spells. -/
theorem read_and_named_iff {raw : String} {e : Expr} :
    Expr.read raw = .ok e ∧ e.query.Named ↔ e.Spelled (trim raw.toList) := by
  refine ⟨fun ⟨hread, hnamed⟩ => Expr.spelled_of_read hread hnamed, fun h => ⟨h.read_eq, ?_⟩⟩
  generalize trim raw.toList = cs at h
  cases h with
  | plain h => exact h.named
  | negated _ h => exact h.named

/-! ## Evaluation -/

namespace Run

variable {W : Type} (host : Host W) {raw : String}

theorem evaluate_of_read_error {x : SyntaxError} (h : Expr.read raw = .error x) (s : State W) :
    evaluate host (.text raw) s =
      (.error (.error (.syntaxFault x)), s.note (.evaluated (.text raw))) := by
  have hrecord : (record (.evaluated (.text raw)) : Run W Unit) s =
    (.ok (), s.note (.evaluated (.text raw))) := rfl
  rw [evaluate, bind_of_ok hrecord]
  rw [h]
  rfl

/-- What is read can be evaluated. -/
theorem evaluate_of_read {e : Expr} (h : Expr.read raw = .ok e) (s : State W) :
    ∃ r t, ask host e.query (s.note (.evaluated (.text raw))) = (.ok r, t) ∧
      evaluate host (.text raw) s = (.ok { r with logical := r.logical != e.negated }, t) := by
  have hrecord : (record (.evaluated (.text raw)) : Run W Unit) s =
    (.ok (), s.note (.evaluated (.text raw))) := rfl
  rcases hask : ask host e.query (s.note (.evaluated (.text raw))) with ⟨f | r, t⟩
  · exact ((confined_ask host e.query).errs _ f (by rw [hask])).elim
  · refine ⟨r, t, rfl, ?_⟩
    rw [evaluate, bind_of_ok hrecord]
    rw [h, bind_of_ok (show ofSyntax (.ok e) _ = (.ok e, _) from rfl), bind_of_ok hask]
    rfl

/-- A text can be evaluated if it can be read. -/
theorem evaluate_ok_iff (s : State W) :
    (∃ r, (evaluate host (.text raw) s).1 = .ok r) ↔ ∃ e, Expr.read raw = .ok e := by
  rcases hread : Expr.read raw with x | e
  · rw [evaluate_of_read_error host hread]
    simp
  · obtain ⟨r, t, -, heval⟩ := evaluate_of_read host hread s
    rw [heval]
    simp

end Run

open Run

/-- **The texts that can be evaluated.** Every text that spells an expression can be, whatever the
state; and one that can be spells an expression, unless it is read with a name that is no word. Any
other text is a malformed expression: no command is run, and nothing of the context changes. -/
theorem evaluate_accepts_iff {W : Type} (host : Host W) (raw : String) (s : State W) :
    ((∃ e : Expr, e.Spelled (trim raw.toList)) ↔
      (∃ r, (evaluate host (.text raw) s).1 = .ok r) ∧
        ∀ e, Expr.read raw = .ok e → e.query.Named) ∧
    ∀ f, (evaluate host (.text raw) s).1 = .error f →
      f.IsSyntax ∧ (evaluate host (.text raw) s).2 = s.note (.evaluated (.text raw)) := by
  constructor
  · rw [evaluate_ok_iff]
    constructor
    · rintro ⟨e, he⟩
      obtain ⟨hread, hnamed⟩ := read_and_named_iff.mpr he
      refine ⟨⟨e, hread⟩, fun e' he' => ?_⟩
      cases hread.symm.trans he'
      exact hnamed
    · rintro ⟨⟨e, hread⟩, hnamed⟩
      exact ⟨e, read_and_named_iff.mp ⟨hread, hnamed e hread⟩⟩
  · intro f hf
    rcases hread : Expr.read raw with x | e
    · rw [evaluate_of_read_error host hread] at hf ⊢
      cases hf
      exact ⟨trivial, rfl⟩
    · obtain ⟨r, t, -, heval⟩ := evaluate_of_read host hread s
      rw [heval] at hf
      cases hf

/-- **A reference with more text behind it** spells no expression, but is evaluated: it asks for a
variable of a name that no variable has. -/
theorem not_evaluate_accepts_only_spelled :
    ¬ ∀ (host : Host Unit) (raw : String) (s : State Unit),
      (∃ r, (evaluate host (.text raw) s).1 = .ok r) →
        ∃ e : Expr, e.Spelled (trim raw.toList) := by
  intro h
  have hread : Expr.read "$foo bar" = .ok ⟨false, .variable "foo bar"⟩ :=
    eq_ok_of_toOption (by decide +kernel)
  obtain ⟨e, he⟩ := h (Host.still "") "$foo bar" ⟨{}, { outside := () }⟩
    ((evaluate_ok_iff _ _).mpr ⟨_, hread⟩)
  obtain ⟨hread', hnamed⟩ := read_and_named_iff.mpr he
  cases hread.symm.trans hread'
  exact Name.not_mem hnamed (c := ' ') (by decide) (by decide)

end Scaffold
