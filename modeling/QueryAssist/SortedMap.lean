/-!
# Maps with sorted keys

A finite map from texts, kept as a list of entries in ascending order of the keys. Texts are
ordered by code points. The order is part of the type, so two maps with the same entries are equal.

## Main definitions

* `SortedMap` — the maps
* `SortedMap.insert`, `SortedMap.erase`, `SortedMap.get?` — writing and reading
* `SortedMap.ofList`, `SortedMap.map`, `SortedMap.values`
-/

namespace QueryAssist

/-- The entry `(key, value)` in its place among entries with ascending keys. It replaces an entry
with the same key. -/
def insertEntry {α : Type} (key : String) (value : α) : List (String × α) → List (String × α)
  | [] => [(key, value)]
  | entry :: rest =>
    if key < entry.1 then (key, value) :: entry :: rest
    else if key = entry.1 then (key, value) :: rest
    else entry :: insertEntry key value rest

/-- A map with entries in ascending order of their keys. -/
structure SortedMap (α : Type) where
  /-- The entries. -/
  entries : List (String × α)
  /-- Each key is below all later ones. -/
  ascending : entries.Pairwise fun a b => a.1 < b.1

namespace SortedMap

variable {α β : Type}

theorem key_of_mem_insertEntry {key : String} {value : α} {l : List (String × α)}
    {e : String × α} (h : e ∈ insertEntry key value l) : e.1 = key ∨ e ∈ l := by
  induction l with
  | nil => simp_all [insertEntry]
  | cons a l ih =>
    unfold insertEntry at h
    split at h
    · simp only [List.mem_cons] at h ⊢
      rcases h with rfl | h | h <;> simp_all
    · split at h
      · simp only [List.mem_cons] at h ⊢
        rcases h with rfl | h <;> simp_all
      · simp only [List.mem_cons] at h ⊢
        rcases h with rfl | h
        · exact .inr (.inl rfl)
        · exact (ih h).imp_right .inr

theorem pairwise_insertEntry (key : String) (value : α) {l : List (String × α)}
    (h : l.Pairwise fun a b => a.1 < b.1) :
    (insertEntry key value l).Pairwise fun a b => a.1 < b.1 := by
  induction l with
  | nil => simp [insertEntry]
  | cons a l ih =>
    obtain ⟨hal, hl⟩ := List.pairwise_cons.1 h
    unfold insertEntry
    split
    · rename_i hka
      refine List.pairwise_cons.2 ⟨fun e he => ?_, h⟩
      rcases List.mem_cons.1 he with rfl | he
      · exact hka
      · exact String.lt_trans hka (hal e he)
    · rename_i hka
      split
      · rename_i heq
        exact List.pairwise_cons.2 ⟨fun e he => heq ▸ hal e he, hl⟩
      · rename_i hne
        refine List.pairwise_cons.2 ⟨fun e he => ?_, ih hl⟩
        rcases key_of_mem_insertEntry he with heq | he
        · have hle : a.1 ≤ key := String.not_lt.1 hka
          rw [heq]
          exact Std.lt_of_le_of_ne hle fun h => hne h.symm
        · exact hal e he

/-- The map without entries. -/
def empty : SortedMap α := ⟨[], .nil⟩

instance : EmptyCollection (SortedMap α) := ⟨empty⟩
instance : Inhabited (SortedMap α) := ⟨empty⟩

/-- Whether there are no entries. -/
def isEmpty (m : SortedMap α) : Bool := m.entries.isEmpty

/-- The map with `value` under `key`, in place of what was there. -/
def insert (m : SortedMap α) (key : String) (value : α) : SortedMap α :=
  ⟨insertEntry key value m.entries, pairwise_insertEntry key value m.ascending⟩

/-- The map without the entry under `key`. -/
def erase (m : SortedMap α) (key : String) : SortedMap α :=
  ⟨m.entries.filter (·.1 != key), m.ascending.filter _⟩

/-- The value under a key. -/
def get? (m : SortedMap α) (key : String) : Option α := m.entries.lookup key

/-- The map with the given entries; of those with the same key, the last one counts. -/
def ofList (entries : List (String × α)) : SortedMap α :=
  entries.foldl (fun m e => m.insert e.1 e.2) empty

/-- The map with every value replaced. -/
def map (f : String → α → β) (m : SortedMap α) : SortedMap β :=
  ⟨m.entries.map fun e => (e.1, f e.1 e.2), List.pairwise_map.2 m.ascending⟩

/-- The values in the order of their keys. -/
def values (m : SortedMap α) : List α := m.entries.map (·.2)

/-! ### Reading what was written -/

theorem lookup_cons_eq_ite (k : String) (e : String × α) (l : List (String × α)) :
    (e :: l).lookup k = if k = e.1 then some e.2 else l.lookup k := by
  obtain ⟨key, value⟩ := e
  by_cases h : k = key
  · simp [h]
  · have : (k == key) = false := by simpa using h
    simp [List.lookup_cons, h, this]

theorem lookup_insertEntry (key k : String) (value : α) (l : List (String × α)) :
    (insertEntry key value l).lookup k = if k = key then some value else l.lookup k := by
  induction l with
  | nil => simp [insertEntry, lookup_cons_eq_ite]
  | cons a l ih =>
    unfold insertEntry
    split
    · simp [lookup_cons_eq_ite]
    · split
      · rename_i heq
        simp only [lookup_cons_eq_ite, ← heq]
        split <;> rfl
      · rename_i hne
        simp only [lookup_cons_eq_ite, ih]
        split <;> split <;> simp_all

@[simp] theorem get?_empty (k : String) : (∅ : SortedMap α).get? k = none := rfl

theorem get?_insert (m : SortedMap α) (key k : String) (value : α) :
    (m.insert key value).get? k = if k = key then some value else m.get? k :=
  lookup_insertEntry key k value m.entries

theorem get?_erase (m : SortedMap α) (key k : String) :
    (m.erase key).get? k = if k = key then none else m.get? k := by
  obtain ⟨l, hl⟩ := m
  simp only [get?, erase]
  clear hl
  induction l with
  | nil => simp
  | cons a l ih =>
    by_cases ha : a.1 = key
    · simp only [List.filter_cons, ha, bne_self_eq_false, Bool.false_eq_true, if_false,
        lookup_cons_eq_ite, ih]
      split <;> rfl
    · have hne : (a.1 != key) = true := by simpa using ha
      simp only [List.filter_cons, hne, if_true, lookup_cons_eq_ite, ih]
      split <;> split <;> simp_all

end SortedMap

end QueryAssist
