import QueryAssist.Catalog.Lookup
import QueryAssist.Diagnostic.Scan

/-!
# Looking names up in a normal form

The normal form of a catalog moves every table under its key in lower case. The name of a table
moves nothing: a table whose name differs from its key is found by the key.

## Main definitions

* `Catalog.Lists` — a name is the key of a table or the name of something else
* `Catalog.NamesAreKeys` — no table has a name of its own

## Main results

* `mem_entries_foldl_insert`, `isSome_get?_foldl_insert` — what has been written can be read
* `exists_of_mem_values_normalized` — the tables of a normal form
* `beginsStatement_normalized_iff` — the names that may begin a statement
-/

namespace QueryAssist

open Text

namespace SortedMap

variable {α γ : Type} {f : γ → String} {g : γ → α} {e : String × α}

theorem mem_of_mem_insertEntry {key : String} {value : α} {l : List (String × α)}
    (h : e ∈ insertEntry key value l) : e = (key, value) ∨ e ∈ l := by
  induction l with
  | nil => exact Or.inl (List.mem_singleton.mp h)
  | cons a l ih =>
    rw [insertEntry] at h
    split at h
    · exact List.mem_cons.mp h
    · split at h
      · exact (List.mem_cons.mp h).imp_right (List.mem_cons_of_mem a)
      · rcases List.mem_cons.mp h with rfl | h
        · exact Or.inr List.mem_cons_self
        · exact (ih h).imp_right (List.mem_cons_of_mem a)

/-- An entry is there from the beginning or has been written. -/
theorem mem_entries_foldl_insert {l : List γ} {m : SortedMap α}
    (h : e ∈ (l.foldl (fun m a => m.insert (f a) (g a)) m).entries) :
    e ∈ m.entries ∨ ∃ a ∈ l, e = (f a, g a) := by
  induction l generalizing m with
  | nil => exact Or.inl h
  | cons a l ih =>
    rcases ih h with h | ⟨b, hb, he⟩
    · exact (mem_of_mem_insertEntry h).symm.imp_right fun he => ⟨a, List.mem_cons_self, he⟩
    · exact Or.inr ⟨b, List.mem_cons_of_mem a hb, he⟩

/-- Under a key something is there from the beginning or has been written. -/
theorem isSome_get?_foldl_insert {l : List γ} {m : SortedMap α} {key : String} :
    ((l.foldl (fun m a => m.insert (f a) (g a)) m).get? key).isSome = true ↔
      (m.get? key).isSome = true ∨ ∃ a ∈ l, f a = key := by
  induction l generalizing m with
  | nil => simp
  | cons a l ih =>
    have hinsert : ((m.insert (f a) (g a)).get? key).isSome = true ↔
        (m.get? key).isSome = true ∨ f a = key := by
      rw [get?_insert]
      split
      · simp [*]
      · rename_i hne
        simp [Ne.symm hne]
    rw [List.foldl_cons, ih, hinsert]
    simp [or_assoc]

end SortedMap

namespace Catalog

variable {c : Catalog} {name : String} {t : Table}

/-- A table has the name as key, or a keyword, an operator or a function has it as name, case
aside. -/
def Lists (c : Catalog) (name : String) : Prop :=
  (∃ e ∈ c.tables.entries, lower e.1 = lower name) ∨
    (∃ k ∈ c.keywords, sameIgnoringAsciiCase k.name name = true) ∨
    (∃ e ∈ c.operators, sameIgnoringAsciiCase e.name name = true) ∨
    ∃ e ∈ c.functions, sameIgnoringAsciiCase e.name name = true

/-- Every table has its key as name, case aside, or no name. -/
def NamesAreKeys (c : Catalog) : Prop :=
  ∀ e ∈ c.tables.entries, e.2.name = "" ∨ lower e.2.name = lower e.1

instance (c : Catalog) (name : String) : Decidable (c.Lists name) :=
  inferInstanceAs (Decidable (_ ∨ _ ∨ _ ∨ _))

instance (c : Catalog) : Decidable c.NamesAreKeys :=
  inferInstanceAs (Decidable (∀ e ∈ c.tables.entries, _ ∨ _))

theorem lower_name_named {e : String × Table} (h : e.2.name = "" ∨ lower e.2.name = lower e.1) :
    lower (e.2.named e.1).name = lower e.1 := by
  unfold Table.named
  split
  · rfl
  · exact h.resolve_left ‹_›

/-- The tables of a normal form are those of the catalog, with their keys for missing names. -/
theorem exists_of_mem_values_normalized (h : t ∈ c.normalized.tables.values) :
    ∃ e ∈ c.tables.entries, t = e.2.named e.1 := by
  obtain ⟨e, he, rfl⟩ := List.mem_map.mp h
  rcases SortedMap.mem_entries_foldl_insert he with he | ⟨a, ha, rfl⟩
  · cases he
  · exact ⟨a, ha, rfl⟩

/-- A table of a normal form is found by the key that it has in the catalog, case aside. -/
theorem isSome_findTable?_normalized_iff :
    (c.normalized.findTable? name).isSome = true ↔
      ∃ e ∈ c.tables.entries, lower e.1 = lower name := by
  rw [findTable?, normalized, SortedMap.isSome_get?_foldl_insert]
  simp

/-- The names that may begin a statement are those that the catalog lists. -/
theorem beginsStatement_normalized_iff :
    Diagnostic.beginsStatement c.normalized name = true ↔ c.Lists name := by
  rw [Diagnostic.beginsStatement, Bool.or_eq_true, Bool.or_eq_true, Bool.or_eq_true,
    isSome_findTable?_normalized_iff, findKeyword?, findOperator?, findFunction?,
    List.find?_isSome, List.find?_isSome, List.find?_isSome, or_assoc, or_assoc]
  rfl

/-- A table without a name of its own is found by its name. -/
theorem NamesAreKeys.lists (h : c.NamesAreKeys) (ht : t ∈ c.normalized.tables.values) :
    c.Lists t.name := by
  obtain ⟨e, he, rfl⟩ := exists_of_mem_values_normalized ht
  exact Or.inl ⟨e, he, (lower_name_named (h e he)).symm⟩

end Catalog

end QueryAssist
