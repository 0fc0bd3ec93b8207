import Mathlib.Data.List.Induction
import Mathlib.Data.String.Basic
import Mathlib.Order.Bounds.Basic
import QueryAssist.Proofs.Catalog.Normalized
import QueryAssist.Proofs.SortedMap
import QueryAssist.Proofs.Text.LetterCase

/-!
# The normal form of a catalog

A catalog is in normal form when its tables stand under keys in lower case and everything that can
take its name from its key has one. Tables are put there in the order of their keys, so of those
that come to stand under one key the last one stays, which is the one with the greatest key.

## Main definitions

* `Catalog.IsNormal` — a catalog in normal form

## Main results

* `SortedMap.get?_foldl_insert_eq_some_iff` — what has been written last can be read
* `normalized_eq_self_iff` — a catalog in normal form stays as it is, and no other does
* `normalized_exact` — what the normal form of a catalog holds
-/

namespace QueryAssist

open Text

namespace SortedMap

variable {α β : Type} {key : String} {value : α}

/-- A key has the value that it stands with among the entries. -/
theorem get?_eq_some_iff {m : SortedMap α} :
    m.get? key = some value ↔ (key, value) ∈ m.entries := by
  rw [get?, List.lookup_eq_some_iff]
  constructor
  · rintro ⟨before, after, hsplit, -⟩
    rw [hsplit]
    exact List.mem_append_right before List.mem_cons_self
  · intro h
    obtain ⟨before, after, hsplit⟩ := List.append_of_mem h
    refine ⟨before, after, hsplit, fun e he => ?_⟩
    -- entries before it have smaller keys
    have hascending := m.ascending
    rw [hsplit] at hascending
    have hlt := (List.pairwise_append.mp hascending).2.2 e he (key, value) List.mem_cons_self
    rw [bne_iff_ne]
    rintro rfl
    exact String.lt_irrefl _ hlt

theorem isSome_get?_iff {m : SortedMap α} :
    (m.get? key).isSome = true ↔ ∃ e ∈ m.entries, e.1 = key := by
  simp [Option.isSome_iff_exists, get?_eq_some_iff]

theorem get?_map (f : String → α → β) (m : SortedMap α) (key : String) :
    (m.map f).get? key = (m.get? key).map (f key) := by
  ext value
  simp only [get?_eq_some_iff, Option.map_eq_some_iff, map, List.mem_map]
  constructor
  · rintro ⟨e, he, heq⟩
    cases heq
    exact ⟨e.2, he, rfl⟩
  · rintro ⟨value, he, rfl⟩
    exact ⟨_, he, rfl⟩

/-- If entries are written in the order of their own keys, what can be read under a key is what has
been written with the greatest one. -/
theorem get?_foldl_insert_eq_some_iff {f : String × β → String} {g : String × β → α}
    {l : List (String × β)} (hl : l.Pairwise fun a b => a.1 < b.1) :
    (l.foldl (fun (m : SortedMap α) e => m.insert (f e) (g e)) ∅).get? key = some value ↔
      ∃ e ∈ l, f e = key ∧ (∀ e' ∈ l, f e' = key → e'.1 ≤ e.1) ∧ g e = value := by
  induction l using List.reverseRecOn with
  | nil => simp
  | append_singleton l e ih =>
    obtain ⟨hl, -, hlast⟩ := List.pairwise_append.mp hl
    have hlt : ∀ e' ∈ l, e'.1 < e.1 := fun e' he' => hlast e' he' e List.mem_cons_self
    rw [List.foldl_append, List.foldl_cons, List.foldl_nil, get?_insert]
    by_cases hkey : f e = key
    · -- what is written last is read, and its own key is the greatest
      rw [if_pos hkey.symm, Option.some.injEq]
      constructor
      · rintro rfl
        refine ⟨e, by simp, hkey, fun e' he' _ => ?_, rfl⟩
        rcases List.mem_append.mp he' with he' | he'
        · exact (hlt e' he').le
        · exact (List.mem_singleton.mp he') ▸ le_rfl
      · rintro ⟨e', he', -, hgreatest, rfl⟩
        rcases List.mem_append.mp he' with he' | he'
        · exact absurd (hlt e' he') (not_lt.mpr (hgreatest e (by simp) hkey))
        · rw [List.mem_singleton.mp he']
    · -- what is written last is not read under this key
      rw [if_neg (Ne.symm hkey), ih hl]
      simp [or_and_right, exists_or, or_imp, forall_and, hkey]

end SortedMap

namespace Catalog

variable {c : Catalog} {t : Table} {r : ResourceType} {key : String}

/-! ### Names from keys -/

/-- A table is named once only, and the empty key is no name. -/
theorem Table.named_named_lower (t : Table) (key : String) :
    (t.named key).named (lower key) = t.named key := by
  by_cases hname : t.name = ""
  · by_cases hkey : key = ""
    · have hempty : lower "" = "" := by decide
      simp [named, hname, hkey, hempty]
    · simp [named, hname, hkey]
  · simp [named, hname]

theorem ResourceType.named_named (r : ResourceType) (key : String) :
    (r.named key).named key = r.named key := by
  unfold named
  split <;> simp_all

/-! ### Catalogs in normal form -/

/-- Tables stand under keys in lower case, and what has no name has the empty key. -/
structure IsNormal (c : Catalog) : Prop where
  /-- The keys of tables are in lower case. -/
  lower_key : ∀ e ∈ c.tables.entries, lower e.1 = e.1
  /-- No table would get a name from its key. -/
  table_named : ∀ e ∈ c.tables.entries, e.2.named e.1 = e.2
  /-- No resource type would get a name from its key. -/
  resourceType_named : ∀ e ∈ c.resourceTypes.entries, e.2.named e.1 = e.2

theorem IsNormal.normalized_eq (h : c.IsNormal) : c.normalized = c := by
  have htables : c.normalized.tables = c.tables := by
    -- every entry is written as it is, so the map is put together again
    have hfold : ∀ (l : List (String × Table)) (m : SortedMap Table), l ⊆ c.tables.entries →
        l.foldl (fun m e => m.insert (lower e.1) (e.2.named e.1)) m =
          l.foldl (fun m e => m.insert e.1 e.2) m := by
      intro l
      induction l with
      | nil => exact fun _ _ => rfl
      | cons e l ih =>
        intro m hl
        obtain ⟨he, hl⟩ := List.cons_subset.mp hl
        rw [List.foldl_cons, List.foldl_cons, h.lower_key e he, h.table_named e he, ih _ hl]
    exact (hfold _ ∅ (List.Subset.refl _)).trans (SortedMap.ofList_eq_of_perm (List.Perm.refl _))
  have htypes : c.normalized.resourceTypes = c.resourceTypes := by
    apply SortedMap.ext_entries
    change (c.resourceTypes.entries.map fun e => (e.1, e.2.named e.1)) = c.resourceTypes.entries
    conv_rhs => rw [← List.map_id c.resourceTypes.entries]
    refine List.map_congr_left fun e he => ?_
    rw [h.resourceType_named e he, id]
  cases c
  exact (Catalog.mk.injEq ..).mpr ⟨htables, rfl, rfl, htypes, rfl⟩

theorem isNormal_normalized (c : Catalog) : c.normalized.IsNormal where
  lower_key e he := by
    rcases SortedMap.mem_entries_foldl_insert he with he | ⟨a, -, rfl⟩
    · cases he
    · exact lower_lower a.1
  table_named e he := by
    rcases SortedMap.mem_entries_foldl_insert he with he | ⟨a, -, rfl⟩
    · cases he
    · exact a.2.named_named_lower a.1
  resourceType_named e he := by
    obtain ⟨a, -, rfl⟩ := List.mem_map.mp he
    exact a.2.named_named a.1

/-- A catalog in normal form stays as it is, and no other does. -/
theorem normalized_eq_self_iff : c.normalized = c ↔ c.IsNormal :=
  ⟨fun h => h ▸ c.isNormal_normalized, IsNormal.normalized_eq⟩

theorem normalized_normalized (c : Catalog) : c.normalized.normalized = c.normalized :=
  c.isNormal_normalized.normalized_eq

/-- The normal form has the keys of the tables in lower case. -/
theorem isSome_get?_tables_normalized_iff :
    (c.normalized.tables.get? key).isSome = true ↔
      ∃ k, (c.tables.get? k).isSome = true ∧ lower k = key := by
  rw [normalized, SortedMap.isSome_get?_foldl_insert]
  simp [SortedMap.isSome_get?_iff]

/-- A table of the normal form is that with the greatest of the keys that have the same lower case,
and has this key as name if it had none. -/
theorem get?_tables_normalized_iff :
    c.normalized.tables.get? key = some t ↔
      ∃ k t₀, c.tables.get? k = some t₀ ∧
        IsGreatest {k | (c.tables.get? k).isSome = true ∧ lower k = key} k ∧ t = t₀.named k := by
  rw [normalized, SortedMap.get?_foldl_insert_eq_some_iff c.tables.ascending]
  constructor
  · rintro ⟨⟨k, t₀⟩, he, hkey, hgreatest, rfl⟩
    have hfound : c.tables.get? k = some t₀ := SortedMap.get?_eq_some_iff.mpr he
    refine ⟨k, t₀, hfound, ⟨⟨Option.isSome_of_eq_some hfound, hkey⟩, ?_⟩, rfl⟩
    rintro k' ⟨hk', hkey'⟩
    obtain ⟨e', he', rfl⟩ := SortedMap.isSome_get?_iff.mp hk'
    exact hgreatest e' he' hkey'
  · rintro ⟨k, t₀, hfound, ⟨⟨-, hkey⟩, hgreatest⟩, rfl⟩
    refine ⟨(k, t₀), SortedMap.get?_eq_some_iff.mp hfound, hkey, fun e' he' hkey' => ?_, rfl⟩
    exact hgreatest ⟨SortedMap.isSome_get?_iff.mpr ⟨e', he', rfl⟩, hkey'⟩

/-- A resource type of the normal form has its key as name if it had none. -/
theorem get?_resourceTypes_normalized (c : Catalog) (id : String) :
    c.normalized.resourceTypes.get? id = (c.resourceTypes.get? id).map (·.named id) :=
  SortedMap.get?_map (fun key (r : ResourceType) => r.named key) c.resourceTypes id

/-- The normal form of a catalog is in normal form. It has the keys of the tables in lower case, and
under each of them the table that had the greatest of the keys with this lower case. Tables and
resource types without a name are given the key they had, and nothing else changes. -/
theorem normalized_exact (c : Catalog) :
    c.normalized.normalized = c.normalized ∧
      (∀ key, (c.normalized.tables.get? key).isSome = true ↔
        ∃ k, (c.tables.get? k).isSome = true ∧ lower k = key) ∧
      (∀ key t, c.normalized.tables.get? key = some t ↔
        ∃ k t₀, c.tables.get? k = some t₀ ∧
          IsGreatest {k | (c.tables.get? k).isSome = true ∧ lower k = key} k ∧
          t = if t₀.name = "" then { t₀ with name := k } else t₀) ∧
      (∀ id, c.normalized.resourceTypes.get? id = (c.resourceTypes.get? id).map fun r =>
        if r.name = "" then { r with name := id } else r) ∧
      c.normalized.operators = c.operators ∧ c.normalized.functions = c.functions ∧
      c.normalized.keywords = c.keywords := by
  exact ⟨c.normalized_normalized, fun key => isSome_get?_tables_normalized_iff,
    fun key t => get?_tables_normalized_iff, c.get?_resourceTypes_normalized, rfl, rfl, rfl⟩

/-- Of two tables whose keys have the same lower case the one with the greater key stays. -/
example : (normalized { tables := .ofList [("Logs", { description := "a" }), ("LOGS", {})] }
    ).tables.entries = [("logs", { name := "Logs", description := "a" })] := by decide +kernel

end Catalog

end QueryAssist
