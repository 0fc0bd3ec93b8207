import QueryAssist.Catalog.Lookup
import QueryAssist.Proofs.Text.LetterCase

/-!
# The resource types of a table

Tables are looked up by their names in lower case, whatever the script. Resource types list their
tables by name too, but there only the case of ASCII letters is left aside. So a resource type that
is found for one name of a table is missed for another one if they differ in a letter beyond ASCII.

## Main definitions

* `Catalog.FindSame` — two names of one table

## Main results

* `resourceTypesOf_eq_iff_of_findSame` — for which names of a table its resource types are the same
* `resourceTypesOf_ne_of_findSame` — two names of a table with different resource types
-/

namespace QueryAssist.Catalog

open Text

variable {c : Catalog} {r : ResourceType} {e : String × ResourceType} {a b : String}

/-- Two names find the same table: in lower case they are one key, and a table stands under it. -/
structure FindSame (c : Catalog) (a b : String) : Prop where
  /-- The names are looked up under one key. -/
  lower_eq : lower a = lower b
  /-- A table is found there. -/
  isSome : (c.findTable? a).isSome = true

instance (c : Catalog) (a b : String) : Decidable (c.FindSame a b) :=
  decidable_of_iff (lower a = lower b ∧ (c.findTable? a).isSome = true)
    ⟨fun h => ⟨h.1, h.2⟩, fun h => ⟨h.lower_eq, h.isSome⟩⟩

theorem FindSame.findTable?_eq (h : c.FindSame a b) : c.findTable? a = c.findTable? b := by
  rw [findTable?, findTable?, h.lower_eq]

/-- A name that has the lower case of one of them finds the same table. -/
theorem FindSame.of_lower_eq {t : String} (h : c.FindSame a b) (ht : lower t = lower a) :
    c.FindSame t b where
  lower_eq := ht.trans h.lower_eq
  isSome := by
    rw [findTable?, ht]
    exact h.isSome

theorem FindSame.symm (h : c.FindSame a b) : c.FindSame b a where
  lower_eq := h.lower_eq.symm
  isSome := h.findTable?_eq ▸ h.isSome

/-! ### Listed tables -/

theorem isStoredIn_iff :
    r.isStoredIn a = true ↔ ∃ t ∈ r.tables, sameIgnoringAsciiCase t a = true :=
  List.any_eq_true

theorem isStoredIn_congr (h : sameIgnoringAsciiCase a b = true) :
    r.isStoredIn a = r.isStoredIn b := by
  rw [sameIgnoringAsciiCase_iff] at h
  rw [Bool.eq_iff_iff, isStoredIn_iff, isStoredIn_iff]
  simp only [sameIgnoringAsciiCase_iff, h]

/-- A resource type that is found for a name lists the table that the name finds. -/
theorem FindSame.exists_of_isStoredIn (h : c.FindSame a b) (hstored : r.isStoredIn a = true) :
    ∃ t ∈ r.tables, c.FindSame t b := by
  obtain ⟨t, ht, hsame⟩ := isStoredIn_iff.mp hstored
  exact ⟨t, ht, h.of_lower_eq (lower_eq_of_sameIgnoringAsciiCase hsame)⟩

theorem resourceTypesOf_eq_iff :
    c.resourceTypesOf a = c.resourceTypesOf b ↔
      ∀ e ∈ c.resourceTypes.entries, e.2.isStoredIn a = true ↔ e.2.isStoredIn b = true := by
  constructor
  · intro h e he
    have hmem : e ∈ c.resourceTypesOf a ↔ e ∈ c.resourceTypesOf b := by rw [h]
    simpa [resourceTypesOf, he] using hmem
  · exact fun h => List.filter_congr fun e he => Bool.eq_iff_iff.mpr (h e he)

/-! ### Names of one table -/

/-- Every resource type that is found for a name of a table lists the table. For two names they are
the same exactly if each resource type that lists the table lists it by the one name whenever by the
other, the case of ASCII letters aside; so they are if the names differ in that only, and if both
are in ASCII. -/
theorem resourceTypesOf_eq_iff_of_findSame (h : c.FindSame a b) :
    (∀ e ∈ c.resourceTypesOf a, ∃ t ∈ e.2.tables, c.FindSame t b) ∧
      (c.resourceTypesOf a = c.resourceTypesOf b ↔
        ∀ e ∈ c.resourceTypes.entries, (∃ t ∈ e.2.tables, c.FindSame t a) →
          ((∃ t ∈ e.2.tables, sameIgnoringAsciiCase t a = true) ↔
            ∃ t ∈ e.2.tables, sameIgnoringAsciiCase t b = true)) ∧
      (sameIgnoringAsciiCase a b = true → c.resourceTypesOf a = c.resourceTypesOf b) ∧
      (IsAscii a → IsAscii b → c.resourceTypesOf a = c.resourceTypesOf b) := by
  have hcongr : sameIgnoringAsciiCase a b = true → c.resourceTypesOf a = c.resourceTypesOf b :=
    fun hsame => resourceTypesOf_eq_iff.mpr fun e _ => by rw [isStoredIn_congr hsame]
  refine ⟨fun e he => ?_, ?_, hcongr, fun ha hb => ?_⟩
  · exact h.exists_of_isStoredIn (List.mem_filter.mp he).2
  · rw [resourceTypesOf_eq_iff]
    simp only [← isStoredIn_iff]
    constructor
    · exact fun hall e he _ => hall e he
    · intro hall e he
      -- a resource type that does not list the table is found for neither name
      by_cases hlists : ∃ t ∈ e.2.tables, c.FindSame t a
      · exact hall e he hlists
      · have hself : c.FindSame a a := ⟨rfl, h.isSome⟩
        exact iff_of_false (fun ha => hlists (hself.exists_of_isStoredIn ha))
          fun hb => hlists (h.symm.exists_of_isStoredIn hb)
  · exact hcongr (sameIgnoringAsciiCase_of_lower_eq ha hb h.lower_eq)

/-- A table with a capital beyond ASCII in its name, and a resource type stored in it. -/
def surveyCatalog : Catalog where
  tables := .ofList [("übersicht", { name := "Übersicht" })]
  resourceTypes := .ofList [("web/site", { name := "web/site", tables := ["Übersicht"] })]

theorem resourceTypesOf_eq_iff_of_findSame_surveyCatalog :
    surveyCatalog.FindSame "Übersicht" "ÜberSICHT" ∧
      sameIgnoringAsciiCase "Übersicht" "ÜberSICHT" = true ∧
      surveyCatalog.resourceTypesOf "Übersicht" = surveyCatalog.resourceTypesOf "ÜberSICHT" := by
  have hfind : surveyCatalog.FindSame "Übersicht" "ÜberSICHT" := by decide +kernel
  have hsame : sameIgnoringAsciiCase "Übersicht" "ÜberSICHT" = true := by decide +kernel
  exact ⟨hfind, hsame, (resourceTypesOf_eq_iff_of_findSame hfind).2.2.1 hsame⟩

/-- Its resource type is found for the name as it is written, and missed for the name in lower case,
which finds the same table. -/
theorem resourceTypesOf_ne_of_findSame :
    surveyCatalog.FindSame "Übersicht" "übersicht" ∧
      surveyCatalog.resourceTypesOf "Übersicht" ≠ surveyCatalog.resourceTypesOf "übersicht" := by
  decide +kernel

end QueryAssist.Catalog
