import QueryAssist.Catalog.Document
import QueryAssist.Proofs.Json.Decoder

/-!
# Catalogs that are written and read again

Everything in a catalog is written into its document and read back from it. What is absent from the
document was absent from the catalog, or empty where reading starts with something empty. So reading
a document loses nothing but what the normal form changes.

## Main definitions

* `Catalog.part` and its kin — a record of which only some fields have been read

## Main results

* `Example.readsBack`, `Table.readsBack`, `Entry.readsBack`, `ResourceType.readsBack`,
  `Keyword.readsBack`, `Catalog.readsBack` — the records are read back
* `ofDocument_render` — a document that was written gives the normal form of the catalog
* `ofDocument_render_of_normalized` — a catalog in normal form is read back from its document
-/

namespace QueryAssist.Catalog

open Json (Reordered)
open Json.Decoder (ReadsBack ReadsEntries)

variable {f : String × Json} {key key' : String} {value : Option String} {v : Json}

/-! ### Optional fields -/

theorem mem_optionalField :
    f ∈ optionalField key value ↔ ∃ s, value = some s ∧ f = (key, .text s) := by
  cases value <;> simp [optionalField]

theorem mem_keys_optionalField :
    key' ∈ (optionalField key value).map Prod.fst ↔ key' = key ∧ value ≠ none := by
  cases value <;> simp [optionalField]

theorem keys_optionalField_sublist (key : String) (value : Option String) :
    ((optionalField key value).map Prod.fst).Sublist [key] := by
  cases value with
  | none => exact List.nil_sublist _
  | some s => exact List.Sublist.refl _

/-! ### Examples -/

/-- The fields of an example. -/
def Example.fields (e : Example) : List (String × Json) :=
  ("code", .text e.code) :: optionalField "description" e.description

theorem Example.nodup_keys_fields (e : Example) : (e.fields.map Prod.fst).Nodup := by
  have hsub := (keys_optionalField_sublist "description" e.description).cons_cons "code"
  exact hsub.nodup (by decide)

/-- An example is what its value stands for. -/
theorem Example.ofJson_toJson (e : Example) : Example.ofJson e.toJson = e := by
  obtain ⟨code, description⟩ := e
  have hfield : ∀ key, (Example.toJson ⟨code, description⟩).field? key =
      (SortedMap.ofList (Example.fields ⟨code, description⟩)).get? key := fun _ => rfl
  rw [Example.ofJson, hfield, hfield]
  cases description with
  | none => rfl
  | some d =>
    simp [fields, SortedMap.ofList, SortedMap.get?_insert, optionalField, Json.text?, toJson,
      Json.ofFields]

theorem Example.readsBack (e : Example) : ReadsBack Example.decoder 1 e.toJson e := by
  have htexts : ∀ f ∈ e.fields, ReadsBack .value 0 f.2 f.2 := by
    intro f hf
    rcases List.mem_cons.mp hf with rfl | hf
    · exact .value_text e.code
    · obtain ⟨s, -, rfl⟩ := mem_optionalField.mp hf
      exact .value_text s
  have hentries : ReadsEntries .value 0 (SortedMap.ofList e.fields).entries
      (SortedMap.ofList e.fields).entries := by
    refine List.forall₂_same.mpr fun f hf => ⟨rfl, htexts f ?_⟩
    exact (SortedMap.perm_entries_ofList e.nodup_keys_fields).mem_iff.mp hf
  -- the value is read first, and tells what the example is
  have hread : ReadsBack Example.decoder 1 e.toJson (Example.ofJson e.toJson) :=
    (ReadsBack.value_object hentries).comp Example.ofJson
  rw [Example.ofJson_toJson] at hread
  exact hread

/-! ### Records -/

/-- The table of which the given fields have been read. -/
def Table.part (t : Table) (seen : List String) : Table where
  name := if "name" ∈ seen then t.name else ""
  description := if "description" ∈ seen then t.description else ""
  resourceTypes := if "resourceTypes" ∈ seen then t.resourceTypes else []
  examples := if "examples" ∈ seen then t.examples else []

theorem Table.readsBack (t : Table) : ReadsBack Table.decoder 3 t.toJson t := by
  refine ReadsBack.record t.part rfl ?_ ?_ (List.nil_subset _) ?_
  · change ["name", "description", "resourceTypes", "examples"].Nodup
    decide
  · intro f hf
    simp only [List.mem_cons, List.not_mem_nil, or_false] at hf
    rcases hf with rfl | rfl | rfl | rfl
    · exact ⟨_, rfl, rfl, fun _ => .default (.text t.name) (by omega) (by simp [part])⟩
    · exact ⟨_, rfl, rfl, fun _ => .default (.text t.description) (by omega) (by simp [part])⟩
    · exact ⟨_, rfl, rfl, fun _ =>
        .orKey (.default (.list_map .text t.resourceTypes) (by omega) (by simp [part])) _⟩
    · exact ⟨_, rfl, rfl, fun _ =>
        .default (.list_map Example.readsBack t.examples) (by omega) (by simp [part])⟩
  · intro seen hseen
    simp [part, hseen]

/-- The documentation of which the given fields have been read. -/
def Entry.part (e : Entry) (seen : List String) : Entry where
  name := if "name" ∈ seen then e.name else ""
  category := if "category" ∈ seen then e.category else ""
  description := if "description" ∈ seen then e.description else none
  usage := if "syntax" ∈ seen then e.usage else none
  parameters := if "parametersDoc" ∈ seen then e.parameters else none
  returns := if "returnsDoc" ∈ seen then e.returns else none
  examples := if "examples" ∈ seen then e.examples else []
  referenceUrl := if "referenceUrl" ∈ seen then e.referenceUrl else none

theorem Entry.readsBack (e : Entry) : ReadsBack Entry.decoder 3 e.toJson e := by
  refine ReadsBack.record e.part rfl ?_ ?_ ?_ ?_
  · -- the fields stand in the order of their declaration, and some may be left out
    have hsub := ((((((List.Sublist.refl ["name", "category"]).append
      (keys_optionalField_sublist "description" e.description)).append
      (keys_optionalField_sublist "syntax" e.usage)).append
      (keys_optionalField_sublist "parametersDoc" e.parameters)).append
      (keys_optionalField_sublist "returnsDoc" e.returns)).append
      (List.Sublist.refl ["examples"])).append
      (keys_optionalField_sublist "referenceUrl" e.referenceUrl)
    simp only [List.map_append]
    exact hsub.nodup (by decide)
  · intro f hf
    simp only [List.mem_append, List.mem_cons, List.not_mem_nil, or_false, mem_optionalField] at hf
    rcases hf with ((((((rfl | rfl) | ⟨s, hs, rfl⟩) | ⟨s, hs, rfl⟩) | ⟨s, hs, rfl⟩) |
      ⟨s, hs, rfl⟩) | rfl) | ⟨s, hs, rfl⟩
    · exact ⟨_, rfl, rfl, fun _ => .require (.default (.text e.name) (by omega) (by simp [part]))⟩
    · exact ⟨_, rfl, rfl, fun _ => .default (.text e.category) (by omega) (by simp [part])⟩
    · exact ⟨_, rfl, rfl, fun _ => .default (.optional s) (by omega) (by simp [part, hs])⟩
    · exact ⟨_, rfl, rfl, fun _ => .default (.optional s) (by omega) (by simp [part, hs])⟩
    · exact ⟨_, rfl, rfl, fun _ =>
        .orKey (.default (.optional s) (by omega) (by simp [part, hs])) _⟩
    · exact ⟨_, rfl, rfl, fun _ =>
        .orKey (.default (.optional s) (by omega) (by simp [part, hs])) _⟩
    · exact ⟨_, rfl, rfl, fun _ =>
        .default (.list_map Example.readsBack e.examples) (by omega) (by simp [part])⟩
    · exact ⟨_, rfl, rfl, fun _ =>
        .orKey (.default (.optional s) (by omega) (by simp [part, hs])) _⟩
  · change ["name"] ⊆ "name" :: _
    simp
  · -- a field that has not been read was absent from the beginning
    intro seen hseen
    have habsent : ∀ o : Option String, (if o = none then none else o) = o := by
      intro o
      cases o <;> rfl
    simp [part, hseen, mem_keys_optionalField, habsent]

/-- The resource type of which the given fields have been read. -/
def ResourceType.part (r : ResourceType) (seen : List String) : ResourceType where
  name := if "name" ∈ seen then r.name else ""
  tables := if "tables" ∈ seen then r.tables else []

theorem ResourceType.readsBack (r : ResourceType) :
    ReadsBack ResourceType.decoder 2 r.toJson r := by
  refine ReadsBack.record r.part rfl ?_ ?_ (List.nil_subset _) ?_
  · change ["name", "tables"].Nodup
    decide
  · intro f hf
    simp only [List.mem_cons, List.not_mem_nil, or_false] at hf
    rcases hf with rfl | rfl
    · exact ⟨_, rfl, rfl, fun _ => .default (.text r.name) (by omega) (by simp [part])⟩
    · exact ⟨_, rfl, rfl, fun _ =>
        .default (.list_map .text r.tables) (by omega) (by simp [part])⟩
  · intro seen hseen
    simp [part, hseen]

/-- The keyword of which the given fields have been read. -/
def Keyword.part (w : Keyword) (seen : List String) : Keyword where
  name := if "name" ∈ seen then w.name else ""
  category := if "category" ∈ seen then w.category else ""

theorem Keyword.readsBack (w : Keyword) : ReadsBack Keyword.decoder 1 w.toJson w := by
  refine ReadsBack.record w.part rfl ?_ ?_ ?_ ?_
  · change ["name", "category"].Nodup
    decide
  · intro f hf
    simp only [List.mem_cons, List.not_mem_nil, or_false] at hf
    rcases hf with rfl | rfl
    · exact ⟨_, rfl, rfl, fun _ => .require (.default (.text w.name) (by omega) (by simp [part]))⟩
    · exact ⟨_, rfl, rfl, fun _ => .default (.text w.category) (by omega) (by simp [part])⟩
  · change ["name"] ⊆ ["name", "category"]
    simp
  · intro seen hseen
    simp [part, hseen]

/-! ### Catalogs -/

/-- The catalog of which the given fields have been read. -/
def part (c : Catalog) (seen : List String) : Catalog where
  tables := if "tables" ∈ seen then c.tables else ∅
  operators := if "operators" ∈ seen then c.operators else []
  functions := if "functions" ∈ seen then c.functions else []
  resourceTypes := if "resourceTypes" ∈ seen then c.resourceTypes else ∅
  keywords := if "keywords" ∈ seen then c.keywords else []

theorem readsBack (c : Catalog) : ReadsBack decoder 5 c.toJson c := by
  refine ReadsBack.record c.part rfl ?_ ?_ (List.nil_subset _) ?_
  · change ["tables", "operators", "functions", "resourceTypes", "keywords"].Nodup
    decide
  · intro f hf
    simp only [List.mem_cons, List.not_mem_nil, or_false] at hf
    rcases hf with rfl | rfl | rfl | rfl | rfl
    · exact ⟨_, rfl, rfl, fun _ =>
        .default (.map_map Table.readsBack c.tables) (by omega) (by simp [part])⟩
    · exact ⟨_, rfl, rfl, fun _ =>
        .default (.list_map Entry.readsBack c.operators) (by omega) (by simp [part])⟩
    · exact ⟨_, rfl, rfl, fun _ =>
        .default (.list_map Entry.readsBack c.functions) (by omega) (by simp [part])⟩
    · exact ⟨_, rfl, rfl, fun _ =>
        .default (.map_map ResourceType.readsBack c.resourceTypes) (by omega) (by simp [part])⟩
    · exact ⟨_, rfl, rfl, fun _ =>
        .default (.list_map Keyword.readsBack c.keywords) (by omega) (by simp [part])⟩
  · intro seen hseen
    simp [part, hseen]

/-- Whether a catalog is in normal form shows in the entries of its maps. -/
theorem normalized_eq_iff {c : Catalog} :
    c.normalized = c ↔ c.normalized.tables.entries = c.tables.entries ∧
      c.normalized.resourceTypes.entries = c.resourceTypes.entries := by
  constructor
  · intro h
    exact ⟨by rw [h], by rw [h]⟩
  · rintro ⟨htables, htypes⟩
    have htables := SortedMap.ext_entries htables
    have htypes := SortedMap.ext_entries htypes
    cases c
    exact (Catalog.mk.injEq ..).mpr ⟨htables, rfl, rfl, htypes, rfl⟩

instance {c : Catalog} : Decidable (c.normalized = c) := decidable_of_iff _ normalized_eq_iff.symm

/-- A document that was written gives the normal form of the catalog. -/
theorem ofDocument_render (c : Catalog) (hv : Reordered c.toJson v) :
    ofDocument v.render = .ok c.normalized := by
  rw [ofDocument, c.readsBack.decode (by decide) hv]
  rfl

/-- A catalog in normal form is read back from the document that it is written as, and from every
document in which the fields of its objects stand in another order. -/
theorem ofDocument_render_of_normalized (c : Catalog) (h : c.normalized = c) :
    ofDocument c.toJson.render = .ok c ∧
      ∀ v, Reordered c.toJson v → ofDocument v.render = .ok c := by
  have hread : ∀ v, Reordered c.toJson v → ofDocument v.render = .ok c := by
    intro v hv
    rw [ofDocument_render c hv, h]
  exact ⟨hread _ (.refl _), hread⟩

/-- A catalog with one table, one operator, one resource type and one keyword. -/
def hostsCatalog : Catalog where
  tables := SortedMap.ofList
    [("hosts",
      { name := "Hosts"
        description := "\"Hosts\" and\n\x01"
        resourceTypes := ["os/host"]
        examples := [⟨"Hosts", none⟩, ⟨"Hosts | count", some "How many"⟩] })]
  operators := [{ name := "count", usage := some "T | count", parameters := some "" }]
  resourceTypes := SortedMap.ofList [("os/Host", { name := "Host", tables := ["Hosts"] })]
  keywords := [{ name := "by" }]

theorem ofDocument_render_of_normalized_hostsCatalog :
    ofDocument hostsCatalog.toJson.render = .ok hostsCatalog ∧
    ofDocument (Json.object
      [("tables", .object (hostsCatalog.tables.map fun _ t => t.toJson).entries),
       ("operators", .array (hostsCatalog.operators.map Entry.toJson)),
       ("functions", .array (hostsCatalog.functions.map Entry.toJson)),
       ("resourceTypes", .object (hostsCatalog.resourceTypes.map fun _ r => r.toJson).entries),
       ("keywords", .array (hostsCatalog.keywords.map Keyword.toJson))]).render =
      .ok hostsCatalog := by
  have hnormal : hostsCatalog.normalized = hostsCatalog := by decide +kernel
  have hkeys : ["tables", "operators", "functions", "resourceTypes", "keywords"].Nodup := by decide
  obtain ⟨hwritten, hreordered⟩ := ofDocument_render_of_normalized hostsCatalog hnormal
  exact ⟨hwritten, hreordered _ (Json.reordered_ofFields hkeys)⟩

end QueryAssist.Catalog
