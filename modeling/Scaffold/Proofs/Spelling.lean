import Mathlib.Data.List.Basic
import Mathlib.Data.List.TakeWhile
import Mathlib.Tactic.Conv
import Scaffold.Expr
import Scaffold.Template

/-!
# How variables are spelled

A variable is referred to as `$name` or `${name}`, where the name is a run of word characters. The
readers of expressions and loop headers take such a reference apart by cutting fixed texts off its
ends, after the blanks around it and a pair of quotes. Here is what they cut it into.

* `Chars.Tight`: a text without blanks at its ends; `Chars.Blanks`: blanks alone.
* `Chars.Name`: a run of word characters. `Chars.Refers`: a reference and its name.
* `quotes`: what may stand on both sides of a reference.

Results:
* `isBlank_of_isWord`: no word character is blank.
* `tight_trim`, `trim_of_tight`: what trimming leaves, and where it leaves everything.
* **`variableName_of_refers`**, **`refers_of_variableName`**: a quoted reference is read as its
  name, and only a text of that shape is read, though the name need not be a word.
-/

namespace Scaffold

/-! ## Blanks and word characters -/

/-- The code points of the blank characters. -/
def blankCodes : List Nat :=
  [0x09, 0x0A, 0x0B, 0x0C, 0x0D, 0x20, 0x85, 0xA0, 0x1680, 0x2000, 0x2001, 0x2002, 0x2003, 0x2004,
    0x2005, 0x2006, 0x2007, 0x2008, 0x2009, 0x200A, 0x2028, 0x2029, 0x202F, 0x205F, 0x3000]

theorem mem_blankCodes {c : Char} (h : isBlank c = true) : c.toNat ∈ blankCodes := by
  simp only [isBlank, Bool.or_eq_true, Bool.and_eq_true, decide_eq_true_eq, beq_iff_eq] at h
  simp only [blankCodes, List.mem_cons, List.not_mem_nil, or_false]
  omega

theorem isWord_of_mem_blankCodes : ∀ n ∈ blankCodes, isWord (Char.ofNat n) = false := by
  decide +kernel

/-- No word character is blank. -/
theorem isBlank_of_isWord {c : Char} (h : isWord c = true) : isBlank c = false := by
  by_contra hblank
  have hword := isWord_of_mem_blankCodes _ (mem_blankCodes (by simpa using hblank))
  rw [Char.ofNat_toNat, h] at hword
  cases hword

/-- No blank is a word character. -/
theorem isWord_of_isBlank {c : Char} (h : isBlank c = true) : isWord c = false := by
  by_contra hword
  rw [isBlank_of_isWord (by simpa using hword)] at h
  cases h

theorem ne_of_isBlank {c d : Char} (hc : isBlank c = true) (hd : isBlank d = false) : c ≠ d := by
  rintro rfl
  rw [hc] at hd
  cases hd

namespace Chars

variable {cs ds : List Char}

/-- Blanks, or nothing. -/
def Blanks (cs : List Char) : Prop := ∀ c ∈ cs, isBlank c = true

/-- No blank comes first. -/
def Flush (cs : List Char) : Prop := ∀ c ∈ cs.head?, isBlank c = false

/-- A text without blanks at its ends. -/
structure Tight (cs : List Char) : Prop where
  first : Flush cs
  last : Flush cs.reverse

theorem flush_cons {c : Char} (h : isBlank c = false) (cs : List Char) : Flush (c :: cs) :=
  fun d hd => by cases hd; exact h

theorem Flush.append (h : Flush cs) (hne : cs ≠ []) (ds : List Char) : Flush (cs ++ ds) := by
  cases cs with
  | nil => exact absurd rfl hne
  | cons c cs => exact h

theorem Flush.of_append (h : Flush (cs ++ ds)) : Flush cs := by
  cases cs with
  | nil => nofun
  | cons c cs => exact h

/-! ### Trimming -/

theorem trimStart_of_flush (h : Flush cs) : trimStart cs = cs := by
  cases cs with
  | nil => rfl
  | cons c cs => rw [trimStart, List.dropWhile_cons, h c rfl]; rfl

theorem flush_trimStart (cs : List Char) : Flush (trimStart cs) := by
  intro c hc
  have hhead := List.head?_dropWhile_not isBlank cs
  rw [show (cs.dropWhile isBlank).head? = some c from hc] at hhead
  simpa using hhead

theorem trimStart_append (hb : Blanks cs) (ds : List Char) :
    trimStart (cs ++ ds) = trimStart ds := List.dropWhile_append_of_pos hb

/-- What is dropped at the start. -/
theorem exists_blanks_trimStart (cs : List Char) : ∃ b, Blanks b ∧ cs = b ++ trimStart cs :=
  ⟨cs.takeWhile isBlank, fun _ => List.mem_takeWhile_imp, List.takeWhile_append_dropWhile.symm⟩

theorem trimEnd_eq (cs : List Char) : trimEnd cs = (trimStart cs.reverse).reverse := rfl

/-- What is dropped at the end. -/
theorem exists_blanks_trimEnd (cs : List Char) : ∃ b, Blanks b ∧ cs = trimEnd cs ++ b := by
  obtain ⟨b, hb, hcs⟩ := exists_blanks_trimStart cs.reverse
  refine ⟨b.reverse, fun c hc => hb c (by simpa using hc), ?_⟩
  rw [trimEnd_eq, ← List.reverse_append, ← hcs, List.reverse_reverse]

/-- A text without blanks at its ends stays as it is. -/
theorem trim_of_tight (h : Tight cs) : trim cs = cs := by
  rw [trim, trimStart_of_flush h.first, trimEnd_eq, trimStart_of_flush h.last,
    List.reverse_reverse]

/-- Trimming leaves no blanks at the ends. -/
theorem tight_trim (cs : List Char) : Tight (trim cs) where
  first := by
    obtain ⟨b, -, hb⟩ := exists_blanks_trimEnd (trimStart cs)
    have hstart := flush_trimStart cs
    rw [hb] at hstart
    exact hstart.of_append
  last := by
    rw [trim, trimEnd_eq, List.reverse_reverse]
    exact flush_trimStart _

/-- What is behind something, without the blanks between them. -/
theorem Tight.of_append (h : Tight (cs ++ ds)) (hds : Flush ds) : Tight ds where
  first := hds
  last := by
    have hlast := h.last
    rw [List.reverse_append] at hlast
    exact hlast.of_append

/-- Behind something, only blanks in front are dropped. -/
theorem Tight.trimStart (h : Tight (cs ++ ds)) : Tight (trimStart ds) := by
  obtain ⟨b, -, hds⟩ := exists_blanks_trimStart ds
  have htight : Tight ((cs ++ b) ++ Chars.trimStart ds) := by rwa [List.append_assoc, ← hds]
  exact htight.of_append (flush_trimStart ds)

theorem trim_append_of_tight (hb : Blanks cs) (h : Tight ds) : trim (cs ++ ds) = ds := by
  rw [trim, trimStart_append hb]
  exact trim_of_tight h

/-! ### Names and references -/

/-- A run of word characters. -/
structure Name (cs : List Char) : Prop where
  nonempty : cs ≠ []
  word : ∀ c ∈ cs, isWord c = true

theorem name_of_all (hne : cs ≠ []) (h : cs.all isWord = true) : Name cs :=
  ⟨hne, List.all_eq_true.mp h⟩

theorem Name.not_mem {name : List Char} (h : Name name) {c : Char} (hc : isWord c = false) :
    c ∉ name := fun hmem => by
  rw [h.word c hmem] at hc
  cases hc

/-- A name is as long as the word characters go on. -/
theorem Name.span_append {name rest : List Char} (h : Name name)
    (hrest : ∀ c ∈ rest.head?, isWord c = false) :
    (name ++ rest).takeWhile isWord = name ∧ (name ++ rest).dropWhile isWord = rest := by
  rw [List.takeWhile_append_of_pos h.word, List.dropWhile_append_of_pos h.word]
  cases rest with
  | nil => simp
  | cons c rest => simp [hrest c rfl]

/-- Where a text ends in a name, it does not end in a blank. -/
theorem Name.flush_reverse {name : List Char} (h : Name name) (cs : List Char) :
    Flush (cs ++ name).reverse := by
  rw [List.reverse_append]
  refine Flush.append (fun c hc => ?_) (by simpa using h.nonempty) _
  exact isBlank_of_isWord (h.word c (List.mem_reverse.mp (List.mem_of_mem_head? hc)))

/-- A reference to a variable, bare or in braces, and what stands in it for the name. -/
inductive Refers (N : List Char → Prop) : List Char → List Char → Prop
  | bare {name : List Char} (h : N name) : Refers N ('$' :: name) name
  | braced {name : List Char} (h : N name) : Refers N ('$' :: '{' :: (name ++ ['}'])) name

/-- What may stand on both sides of a reference. -/
def quotes : List (List Char) := [[], ['"'], ['\'']]

section

variable {N M : List Char → Prop} {q ref rest name : List Char}

theorem Refers.named (h : Refers N ref name) : N name := by cases h <;> assumption

theorem Refers.exists_cons (h : Refers N ref name) : ∃ rest, ref = '$' :: rest := by
  cases h <;> exact ⟨_, rfl⟩

theorem Refers.of_name (h : Refers N ref name) (hname : M name) : Refers M ref name := by
  cases h with
  | bare _ => exact .bare hname
  | braced _ => exact .braced hname

theorem tight_of_refers (h : Refers Name ref name) : Tight ref := by
  cases h with
  | bare h => exact ⟨flush_cons (by decide) _, h.flush_reverse ['$']⟩
  | braced _ => exact ⟨flush_cons (by decide) _, by simpa using flush_cons (by decide) _⟩

theorem tight_quoted (hq : q ∈ quotes) (h : Tight ref) : Tight (q ++ (ref ++ q)) := by
  simp only [quotes, List.mem_cons, List.not_mem_nil, or_false] at hq
  rcases hq with rfl | rfl | rfl
  · simpa using h
  · exact ⟨flush_cons (by decide) _, by simpa using flush_cons (by decide) _⟩
  · exact ⟨flush_cons (by decide) _, by simpa using flush_cons (by decide) _⟩

end

end Chars

/-! ## Reading a reference -/

section

variable {q cs ref rest name : List Char}

open Chars

theorem insideQuotes?_eq_some_iff {c : Char} {inner : List Char} :
    insideQuotes? c cs = some inner ↔ cs = [c] ++ (inner ++ [c]) := by
  rw [insideQuotes?, Option.bind_eq_some_iff]
  constructor
  · rintro ⟨rest, hrest, hinner⟩
    rw [stripPrefix?_eq_some_iff.mp hrest, stripSuffix?_eq_some_iff.mp hinner]
  · rintro rfl
    exact ⟨inner ++ [c], stripPrefix?_append _ _, stripSuffix?_eq_some_iff.mpr rfl⟩

theorem insideQuotes?_eq_none {c d : Char} (h : d ≠ c) (cs : List Char) :
    insideQuotes? d (c :: cs) = none := by
  rw [insideQuotes?, stripPrefix?, if_neg h]
  rfl

/-- Quotes are taken off a text that starts with a dollar sign inside them. -/
theorem unquoted_quoted (hq : q ∈ quotes) (rest : List Char) :
    unquoted (q ++ ('$' :: rest ++ q)) = '$' :: rest := by
  have hinside : ∀ c, insideQuotes? c ([c] ++ ('$' :: rest ++ [c])) = some ('$' :: rest) :=
    fun c => insideQuotes?_eq_some_iff.mpr rfl
  simp only [quotes, List.mem_cons, List.not_mem_nil, or_false] at hq
  rcases hq with rfl | rfl | rfl
  · rw [List.nil_append, List.append_nil, unquoted, insideQuotes?_eq_none (by decide),
      insideQuotes?_eq_none (by decide)]
    rfl
  · rw [unquoted, hinside]
    rfl
  · have hnone : insideQuotes? '"' (['\''] ++ ('$' :: rest ++ ['\''])) = none :=
      insideQuotes?_eq_none (by decide) _
    rw [unquoted, hnone, hinside]
    rfl

/-- Quotes are all that is taken off. -/
theorem exists_quotes_unquoted (cs : List Char) :
    ∃ q ∈ quotes, cs = q ++ (unquoted cs ++ q) := by
  rw [unquoted]
  rcases hdouble : insideQuotes? '"' cs with _ | inner
  · rcases hsingle : insideQuotes? '\'' cs with _ | inner
    · exact ⟨[], by decide, by simp⟩
    · exact ⟨['\''], by decide, insideQuotes?_eq_some_iff.mp hsingle⟩
  · exact ⟨['"'], by decide, insideQuotes?_eq_some_iff.mp hdouble⟩

theorem unbraced_braced (name : List Char) : unbraced ('{' :: (name ++ ['}'])) = name := by
  have hprefix : stripPrefix? ['{'] ('{' :: (name ++ ['}'])) = some (name ++ ['}']) := rfl
  have hsuffix : stripSuffix? ['}'] (name ++ ['}']) = some name := stripSuffix?_eq_some_iff.mpr rfl
  rw [unbraced, hprefix, Option.bind_some, hsuffix]
  rfl

/-- Braces are taken off only where there are both. -/
theorem unbraced_of_not_braced (h : ∀ inner, rest ≠ '{' :: (inner ++ ['}'])) :
    unbraced rest = rest := by
  rw [unbraced]
  rcases hinner : (stripPrefix? ['{'] rest).bind (stripSuffix? ['}']) with _ | inner
  · rfl
  · obtain ⟨behind, hbehind, hinner⟩ := Option.bind_eq_some_iff.mp hinner
    refine absurd ?_ (h inner)
    rw [stripPrefix?_eq_some_iff.mp hbehind, stripSuffix?_eq_some_iff.mp hinner]
    rfl

theorem unbraced_of_name (h : Name name) : unbraced name = name :=
  unbraced_of_not_braced fun _ hname =>
    h.not_mem (c := '{') (by decide) (hname ▸ List.mem_cons_self)

/-- What is behind a dollar sign refers to what is left of it without braces. -/
theorem refers_unbraced {N : List Char → Prop} (h : N (unbraced rest)) :
    Refers N ('$' :: rest) (unbraced rest) := by
  by_cases hbraced : ∃ inner, rest = '{' :: (inner ++ ['}'])
  · obtain ⟨inner, rfl⟩ := hbraced
    rw [unbraced_braced] at h ⊢
    exact .braced h
  · rw [unbraced_of_not_braced (not_exists.mp hbraced)] at h ⊢
    exact .bare h

/-- What is read from a text that is a dollar sign and more, with quotes or blanks around it. -/
theorem variableName_eq {b : List Char} (hb : Blanks b) (hq : q ∈ quotes)
    (h : Tight ('$' :: rest)) (hrest : unbraced rest ≠ []) :
    variableName (String.ofList (b ++ (q ++ ('$' :: rest ++ q)))) =
      .ok (String.ofList (unbraced rest)) := by
  have htrim : trim (b ++ (q ++ ('$' :: rest ++ q))) = q ++ ('$' :: rest ++ q) :=
    trim_append_of_tight hb (tight_quoted hq h)
  have hdollar : stripPrefix? ['$'] ('$' :: rest) = some rest := rfl
  have hempty : (unbraced rest).isEmpty = false := by simpa using hrest
  rw [variableName, String.toList_ofList, htrim, unquoted_quoted hq, hdollar]
  simp only [hempty, Bool.false_eq_true, if_false]

/-- **A reference**, with quotes and blanks around it, is read as its name. -/
theorem variableName_of_refers {b : List Char} (hb : Blanks b) (hq : q ∈ quotes)
    (h : Refers Name ref name) :
    variableName (String.ofList (b ++ (q ++ (ref ++ q)))) = .ok (String.ofList name) := by
  have htight := tight_of_refers h
  have hne := h.named.nonempty
  cases h with
  | bare h =>
    have hname := unbraced_of_name h
    rw [variableName_eq hb hq htight (by rwa [hname]), hname]
  | braced h =>
    have hname := unbraced_braced name
    rw [variableName_eq hb hq htight (by rwa [hname]), hname]

/-- **A text that is read as a name** is a reference to it with quotes and blanks around it, but
what is between the dollar sign or the braces and the end need not be a word. -/
theorem refers_of_variableName {reference n : String} (h : variableName reference = .ok n) :
    ∃ q ∈ quotes, ∃ ref, trim reference.toList = q ++ (ref ++ q) ∧
      Refers (· ≠ []) ref n.toList := by
  obtain ⟨q, hq, htrim⟩ := exists_quotes_unquoted (trim reference.toList)
  refine ⟨q, hq, unquoted (trim reference.toList), htrim, ?_⟩
  rw [variableName] at h
  split at h
  · cases h
  · rename_i rest hrest
    dsimp only at h
    split at h
    · cases h
    · rename_i hne
      cases h
      rw [stripPrefix?_eq_some_iff.mp hrest, String.toList_ofList]
      exact refers_unbraced (by simpa using hne)

end

end Scaffold
