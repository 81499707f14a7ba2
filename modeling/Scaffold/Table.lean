/-!
# Tables

A `Table` maps names to values. Its entries are kept in increasing order of names (by code point)
without repetition, so every listing of a table is in name order. **`get?_insert`** says what a
look-up gives after an insertion, **`ofList_entries`** that a table is the table of its entries.
-/

namespace Scaffold

/-- Names in increasing order, each with a value. -/
structure Table (α : Type u) where
  entries : List (String × α)
  sorted : entries.Pairwise fun a b => a.1 < b.1

namespace Table

variable {α : Type u} {β : Type v}

/-- The table without entries. -/
def empty : Table α := ⟨[], .nil⟩

instance : Inhabited (Table α) := ⟨empty⟩

instance : EmptyCollection (Table α) := ⟨empty⟩

instance [DecidableEq α] : DecidableEq (Table α) := fun a b =>
  if h : a.entries = b.entries then isTrue (by cases a; cases b; simp_all)
  else isFalse fun e => h (e ▸ rfl)

/-- Insert into ordered entries, replacing the value of a name that is there. -/
def insertEntry (k : String) (v : α) : List (String × α) → List (String × α)
  | [] => [(k, v)]
  | (k', v') :: rest =>
    if k < k' then (k, v) :: (k', v') :: rest
    else if k = k' then (k, v) :: rest
    else (k', v') :: insertEntry k v rest

theorem mem_insertEntry {k : String} {v : α} {l : List (String × α)} {e : String × α}
    (h : e ∈ insertEntry k v l) : e = (k, v) ∨ e ∈ l := by
  induction l with
  | nil => simpa [insertEntry] using h
  | cons p rest ih =>
    obtain ⟨k', v'⟩ := p
    unfold insertEntry at h
    split at h
    · simpa using h
    · split at h
      · rcases List.mem_cons.1 h with h | h
        · exact .inl h
        · exact .inr (List.mem_cons_of_mem _ h)
      · rcases List.mem_cons.1 h with h | h
        · exact .inr (h ▸ List.mem_cons_self)
        · rcases ih h with h | h
          · exact .inl h
          · exact .inr (List.mem_cons_of_mem _ h)

theorem lt_of_not_lt_of_ne {a b : String} (h : ¬ a < b) (hne : a ≠ b) : b < a := by
  rcases Decidable.em (b < a) with h' | h'
  · exact h'
  · exact absurd (String.le_antisymm (String.not_lt.1 h') (String.not_lt.1 h)) hne

theorem sorted_insertEntry {k : String} {v : α} {l : List (String × α)}
    (h : l.Pairwise fun a b => a.1 < b.1) : (insertEntry k v l).Pairwise fun a b => a.1 < b.1 := by
  induction l with
  | nil => simp [insertEntry]
  | cons p rest ih =>
    obtain ⟨k', v'⟩ := p
    rw [List.pairwise_cons] at h
    unfold insertEntry
    split
    · rename_i hlt
      refine List.pairwise_cons.2 ⟨?_, List.pairwise_cons.2 h⟩
      intro e he
      rcases List.mem_cons.1 he with rfl | he
      · exact hlt
      · exact String.lt_trans hlt (h.1 e he)
    · split
      · rename_i heq
        subst heq
        exact List.pairwise_cons.2 ⟨fun e he => h.1 e he, h.2⟩
      · rename_i hnlt hne
        refine List.pairwise_cons.2 ⟨?_, ih h.2⟩
        intro e he
        rcases mem_insertEntry he with rfl | he
        · exact lt_of_not_lt_of_ne hnlt hne
        · exact h.1 e he

/-- Set the value of a name. -/
def insert (t : Table α) (k : String) (v : α) : Table α :=
  ⟨insertEntry k v t.entries, sorted_insertEntry t.sorted⟩

/-- The value of a name. -/
def get? (t : Table α) (k : String) : Option α :=
  (t.entries.find? fun e => e.1 == k).map Prod.snd

/-- Whether a name has a value. -/
def contains (t : Table α) (k : String) : Bool := (t.get? k).isSome

/-- The names in increasing order. -/
def keys (t : Table α) : List String := t.entries.map Prod.fst

/-- Set the values of several names, later pairs winning. -/
def insertAll (t : Table α) (pairs : List (String × α)) : Table α :=
  pairs.foldl (fun t p => t.insert p.1 p.2) t

/-- The table of a list of pairs, later pairs winning. -/
def ofList (pairs : List (String × α)) : Table α := insertAll empty pairs

/-- The names whose entries satisfy a test. -/
def filter (t : Table α) (p : String → α → Bool) : Table α :=
  ⟨t.entries.filter fun e => p e.1 e.2, t.sorted.filter _⟩

theorem find?_insertEntry (k k' : String) (v : α) {l : List (String × α)}
    (h : l.Pairwise fun a b => a.1 < b.1) :
    ((insertEntry k v l).find? fun e => e.1 == k').map Prod.snd =
      if k = k' then some v else (l.find? fun e => e.1 == k').map Prod.snd := by
  induction l with
  | nil => by_cases hk : k = k' <;> simp [insertEntry, hk]
  | cons p rest ih =>
    obtain ⟨a, b⟩ := p
    rw [List.pairwise_cons] at h
    unfold insertEntry
    split
    · by_cases hk : k = k' <;> simp [hk]
    · split
      · rename_i heq
        subst heq
        by_cases hk : k = k'
        · simp [hk]
        · simp [hk, show (k == k') = false by simpa using hk]
      · rename_i hne
        by_cases ha : a = k'
        · subst ha
          simp [hne]
        · simp only [List.find?_cons, show (a == k') = false by simpa using ha]
          exact ih h.2

/-- A look-up after an insertion. -/
theorem get?_insert (t : Table α) (k k' : String) (v : α) :
    (t.insert k v).get? k' = if k = k' then some v else t.get? k' :=
  find?_insertEntry k k' v t.sorted

@[simp] theorem get?_insert_self (t : Table α) (k : String) (v : α) :
    (t.insert k v).get? k = some v := by simp [get?_insert]

theorem get?_insert_of_ne (t : Table α) {k k' : String} (v : α) (h : k ≠ k') :
    (t.insert k v).get? k' = t.get? k' := by simp [get?_insert, h]

@[simp] theorem get?_empty (k : String) : (empty : Table α).get? k = none := rfl

/-- Look-up finds the entries, each under its name. -/
theorem get?_eq_some_iff {t : Table α} {k : String} {v : α} :
    t.get? k = some v ↔ (k, v) ∈ t.entries := by
  refine ⟨fun h => ?_, fun h => ?_⟩
  · obtain ⟨⟨k', v'⟩, he, rfl⟩ := Option.map_eq_some_iff.mp h
    have hk : k' = k := by simpa using List.find?_some he
    exact hk ▸ List.mem_of_find?_eq_some he
  · have hfind : ∀ l : List (String × α), l.Pairwise (fun a b => a.1 < b.1) → (k, v) ∈ l →
        (l.find? fun e => e.1 == k) = some (k, v) := by
      intro l
      induction l with
      | nil => nofun
      | cons e rest ih =>
        intro hsorted hmem
        obtain ⟨hhead, hrest⟩ := List.pairwise_cons.mp hsorted
        rcases List.mem_cons.mp hmem with rfl | hmem
        · simp
        · have hne : (e.1 == k) = false := by
            simpa using fun heq : e.1 = k => String.lt_irrefl _ (heq ▸ hhead _ hmem)
          rw [List.find?_cons_of_neg (by simpa using hne), ih hrest hmem]
    exact congrArg (Option.map Prod.snd) (hfind t.entries t.sorted h)

theorem mem_keys_of_get? {t : Table α} {k : String} {v : α} (h : t.get? k = some v) :
    k ∈ t.keys := List.mem_map_of_mem (get?_eq_some_iff.mp h)

theorem contains_of_mem_keys {t : Table α} {k : String} (h : k ∈ t.keys) :
    t.contains k = true := by
  obtain ⟨⟨_, v⟩, he, rfl⟩ := List.mem_map.mp h
  exact Option.isSome_iff_exists.mpr ⟨v, get?_eq_some_iff.mpr he⟩

theorem insertAll_cons (t : Table α) (p : String × α) (pairs : List (String × α)) :
    t.insertAll (p :: pairs) = (t.insert p.1 p.2).insertAll pairs := rfl

/-- A look-up after several insertions, where the name decides the value. -/
theorem get?_insertAll {f : String → Option α} (k : String) :
    ∀ {pairs : List (String × α)} {t : Table α}, (∀ p ∈ pairs, f p.1 = some p.2) →
      (t.insertAll pairs).get? k = if k ∈ pairs.map Prod.fst then f k else t.get? k
  | [], t, _ => by simp [insertAll]
  | p :: pairs, t, h => by
    rw [insertAll_cons, get?_insertAll k fun q hq => h q (List.mem_cons_of_mem _ hq), get?_insert]
    by_cases hk : k ∈ pairs.map Prod.fst
    · have hcons : k ∈ (p :: pairs).map Prod.fst := List.mem_cons_of_mem _ hk
      rw [if_pos hk, if_pos hcons]
    · rw [if_neg hk]
      by_cases hp : p.1 = k
      · have hcons : k ∈ (p :: pairs).map Prod.fst := hp ▸ List.mem_cons_self
        rw [if_pos hp, if_pos hcons, ← hp, h p List.mem_cons_self]
      · have hnot : k ∉ (p :: pairs).map Prod.fst := by
          rw [List.map_cons, List.mem_cons]
          rintro (h | h)
          · exact hp h.symm
          · exact hk h
        rw [if_neg hp, if_neg hnot]

theorem insertEntry_of_lt {k : String} {v : α} {l : List (String × α)} (h : ∀ e ∈ l, e.1 < k) :
    insertEntry k v l = l ++ [(k, v)] := by
  induction l with
  | nil => rfl
  | cons e rest ih =>
    have he : e.1 < k := h e List.mem_cons_self
    have hnot : ¬ k < e.1 := String.lt_asymm he
    have hne : k ≠ e.1 := fun hk => String.lt_irrefl _ (hk ▸ he)
    rw [insertEntry, if_neg hnot, if_neg hne, ih fun e he => h e (List.mem_cons_of_mem _ he)]
    rfl

theorem entries_insertAll {pairs : List (String × α)} :
    ∀ {t : Table α}, (t.entries ++ pairs).Pairwise (fun a b => a.1 < b.1) →
      (t.insertAll pairs).entries = t.entries ++ pairs := by
  induction pairs with
  | nil => intro t _; simp [insertAll]
  | cons p pairs ih =>
    intro t h
    have hlast : (t.insert p.1 p.2).entries = t.entries ++ [p] :=
      insertEntry_of_lt fun e he => (List.pairwise_append.mp h).2.2 e he p List.mem_cons_self
    rw [insertAll_cons, ih (by rw [hlast, List.append_assoc]; exact h), hlast, List.append_assoc]
    rfl

/-- A table is the table of its entries. -/
theorem ofList_entries (t : Table α) : ofList t.entries = t := by
  obtain ⟨entries, hsorted⟩ := t
  have h : (ofList entries).entries = entries := entries_insertAll (t := empty) hsorted
  cases hl : ofList entries
  rw [hl] at h
  cases h
  rfl

end Table

end Scaffold
