import Scaffold.Proofs.Insertion

/-!
# Additions that are refused

An assistant is added below a path of names that must be there. If it is not, the addition is an
error, and whatever is looked up in the library is found as before. But the role of the path gets an
entry before the path is looked for, so a refused addition below a role that had none leaves a role
without assistants behind, and the list of roles shows it.

* `Library.Agrees`: libraries in which the same is found. `Library.Alike`: those that list the same
  roles besides.

Results:
* `Table.insert_of_get?`: an insertion of what is there changes nothing.
* `addAssistant_of_error`: what a refused addition makes of the library.
* **`refused_agrees`**: a refused addition changes the list of roles at most, and nothing at all
  exactly if the role was there.
* **`not_alike_of_refused`**: so it does not leave every library as it was.
-/

namespace Scaffold

namespace Table

variable {α : Type u} {k : String} {v : α}

theorem mem_keys_iff {t : Table α} : k ∈ t.keys ↔ ∃ v, t.get? k = some v := by
  constructor
  · intro h
    exact Option.isSome_iff_exists.mp (contains_of_mem_keys h)
  · rintro ⟨v, hv⟩
    exact mem_keys_of_get? hv

theorem mem_keys_insert {t : Table α} {k' : String} :
    k' ∈ (t.insert k v).keys ↔ k' = k ∨ k' ∈ t.keys := by
  rw [mem_keys_iff, mem_keys_iff, get?_insert]
  by_cases hk : k = k'
  · simp [hk]
  · simp [hk, Ne.symm hk]

theorem insertEntry_of_mem {l : List (String × α)} (hl : l.Pairwise fun a b => a.1 < b.1)
    (h : (k, v) ∈ l) : insertEntry k v l = l := by
  induction l with
  | nil => cases h
  | cons e rest ih =>
    obtain ⟨hhead, hrest⟩ := List.pairwise_cons.mp hl
    rcases List.mem_cons.mp h with rfl | h
    · rw [insertEntry, if_neg (String.lt_irrefl k), if_pos rfl]
    · have hlt : e.1 < k := hhead _ h
      have hne : k ≠ e.1 := fun hk => String.lt_irrefl k (hk ▸ hlt)
      rw [insertEntry, if_neg (String.lt_asymm hlt), if_neg hne, ih hrest h]

/-- Inserting what is there changes nothing. -/
theorem insert_of_get? {t : Table α} (h : t.get? k = some v) : t.insert k v = t := by
  obtain ⟨entries, hsorted⟩ := t
  have hentries := insertEntry_of_mem hsorted (get?_eq_some_iff.mp h)
  simp only [insert, hentries]

end Table

namespace Library

variable {l l' : Library} {role : String} {parents : List String} {a : Assistant} {e : ConfigError}

/-! ## What a library shows -/

/-- Libraries in which the same is found. -/
structure Agrees (l l' : Library) : Prop where
  forests : ∀ r, l'.forest r = l.forest r
  chains : ∀ r names, l'.chain r names = l.chain r names
  snippets : ∀ name, l'.snippet? name = l.snippet? name

/-- Libraries that show the same: what is found in them, and the list of roles. -/
structure Alike (l l' : Library) : Prop extends Agrees l l' where
  roles : l'.roles = l.roles

/-- What paths resolve to is a matter of the forests. -/
theorem chain_congr {r : String} (h : l'.forest r = l.forest r) (names : List String) :
    l'.chain r names = l.chain r names := by
  rw [chain, chain, h]

/-- Without an entry a role has no assistants, and with one it has those of its entry. -/
theorem get?_eq_some_forest (h : role ∈ l.roles) :
    l.assistants.get? role = some (l.forest role) := by
  obtain ⟨f, hf⟩ := Table.mem_keys_iff.mp h
  rw [forest, hf]
  rfl

/-! ## Refused additions -/

/-- What a refused addition makes of a library: the role has an entry for the assistants it had. -/
theorem addAssistant_of_error (h : (l.addAssistant role parents a).1 = .error e) :
    (l.forest role).add? a parents = none ∧
      (l.addAssistant role parents a).2 =
        { l with assistants := l.assistants.insert role (l.forest role) } := by
  rcases hadd : (l.forest role).add? a parents with _ | f
  · rw [addAssistant, hadd]
    exact ⟨rfl, rfl⟩
  · rw [addAssistant_of_add? hadd] at h
    cases h

/-- **A refused addition** changes nothing that can be found. But the role that it is asked for is
listed from then on, among those that were, so the library is the same exactly if it was one. -/
theorem refused_agrees (h : (l.addAssistant role parents a).1 = .error e) :
    Agrees l (l.addAssistant role parents a).2 ∧
      (∀ r, r ∈ (l.addAssistant role parents a).2.roles ↔ r = role ∨ r ∈ l.roles) ∧
      ((l.addAssistant role parents a).2 = l ↔ role ∈ l.roles) := by
  obtain ⟨hadd, hafter⟩ := addAssistant_of_error h
  have hforests := forest_of_add?_eq_none hadd
  have hroles : ∀ r, r ∈ (l.addAssistant role parents a).2.roles ↔ r = role ∨ r ∈ l.roles := by
    intro r
    rw [hafter]
    exact Table.mem_keys_insert
  refine ⟨⟨hforests, fun r => chain_congr (hforests r), fun name => ?_⟩, hroles, ?_⟩
  · rw [hafter]
    rfl
  · constructor
    · intro heq
      have hmem := (hroles role).mpr (.inl rfl)
      rwa [heq] at hmem
    · intro hmem
      rw [hafter, Table.insert_of_get? (get?_eq_some_forest hmem)]

/-- Below a role that the library has, a refused addition changes nothing; below another one, that
role is listed in the end. -/
theorem refused_agrees_twins :
    (twins.addAssistant "crt" ["ruby"] { name := "rails" }).2 = twins ∧
      Agrees twins (twins.addAssistant "mod" ["ruby"] { name := "rails" }).2 ∧
      "mod" ∈ (twins.addAssistant "mod" ["ruby"] { name := "rails" }).2.roles ∧
      (twins.addAssistant "mod" ["ruby"] { name := "rails" }).2 ≠ twins := by
  have hcrt : (twins.addAssistant "crt" ["ruby"] { name := "rails" }).1 =
      .error (notFound "crt" ["ruby"]) := rfl
  have hmod : (twins.addAssistant "mod" ["ruby"] { name := "rails" }).1 =
      .error (notFound "mod" ["ruby"]) := rfl
  obtain ⟨-, -, hsame⟩ := refused_agrees hcrt
  obtain ⟨hagrees, hroles, hdiffers⟩ := refused_agrees hmod
  have hold : "crt" ∈ twins.roles := by decide +kernel
  have hnew : "mod" ∉ twins.roles := by decide +kernel
  exact ⟨hsame.mpr hold, hagrees, (hroles "mod").mpr (.inl rfl), fun h => hnew (hdiffers.mp h)⟩

/-- **A refused addition does not leave every library as it was**: in one without roles, the role
that the assistant was to be added below is listed afterwards. -/
theorem not_alike_of_refused :
    ¬ ∀ (l : Library) (role : String) (parents : List String) (a : Assistant) (e : ConfigError),
      (l.addAssistant role parents a).1 = .error e → Alike l (l.addAssistant role parents a).2 := by
  intro h
  have halike := h {} "mod" ["missing"] { name := "x" } (notFound "mod" ["missing"]) rfl
  have hroles : (addAssistant {} "mod" ["missing"] { name := "x" }).2.roles = ["mod"] := rfl
  rw [halike.roles] at hroles
  cases hroles

end Library

end Scaffold
