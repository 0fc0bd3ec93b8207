import QueryAssist.Catalog.Document
import QueryAssist.Proofs.Catalog.Normalized
import QueryAssist.Proofs.Completion.Offer
import QueryAssist.Proofs.Diagnostic.Flags

/-!
# What is offered and what is flagged

Tables are offered by their names and looked up by their keys. An operator that is offered is never
flagged; a table that is offered is flagged when its name is neither a key nor listed otherwise,
which takes a document that gives a table a name besides its key.

## Main definitions

* `Completion.Source.kinds` — the kinds of items that a source has

## Main results

* `exists_table_of_mem_offer`, `exists_operator_of_mem_offer` — where offered names come from
* `isFlagged_of_mem_offer` — which offered names are flagged
* `exists_isFlagged_of_mem_offer` — a table that is offered and flagged
-/

namespace QueryAssist.Completion

open Diagnostic Context Text

variable {c : Catalog} {properties : List String} {q : Query} {i : Item} {source : Source}

/-! ### Where offered names come from -/

theorem mem_allItems_of_mem_offer (h : i ∈ offer c properties q) : i ∈ allItems c properties q :=
  (List.mem_filter.mp (List.mem_mergeSort.mp ((firstOfEach_sublist [] _).subset h))).1

theorem exists_source_of_mem_offer (h : i ∈ offer c properties q) :
    ∃ source, i ∈ sourceItems c properties q source :=
  (List.mem_flatMap.mp (mem_allItems_of_mem_offer h)).imp fun _ hsource => hsource.2

/-- The kinds of items that a source has. -/
def Source.kinds : Source → List Kind
  | .continuation => [.keyword]
  | .tables => [.table]
  | .operators => [.operator]
  | .functions => [.function, .aggregateFunction]
  | .properties => [.property]
  | .resourceTypes => [.resourceType]
  | .keywords => [.keyword]

theorem kind_mem_kinds (h : i ∈ sourceItems c properties q source) : i.kind ∈ source.kinds := by
  cases source with
  | continuation =>
    rw [List.mem_singleton.mp h]
    exact List.mem_cons_self
  | functions =>
    obtain ⟨e, -, rfl⟩ := List.mem_map.mp h
    simp [Item.plain, Source.kinds]
  | tables | operators | properties | resourceTypes | keywords =>
    obtain ⟨_, -, rfl⟩ := List.mem_map.mp h
    exact List.mem_cons_self

/-- A table that is offered is one of the catalog, in any context. -/
theorem exists_table_of_mem_offer (h : i ∈ offer c properties q) (hkind : i.kind = .table) :
    ∃ t ∈ c.tables.values, t.name = i.label := by
  obtain ⟨source, hsource⟩ := exists_source_of_mem_offer h
  obtain rfl : source = .tables := by
    have hkinds := kind_mem_kinds hsource
    rw [hkind] at hkinds
    revert hkinds
    cases source <;> decide
  obtain ⟨t, ht, rfl⟩ := List.mem_map.mp hsource
  exact ⟨t, ht, rfl⟩

/-- An operator that is offered is one of the catalog, in any context. -/
theorem exists_operator_of_mem_offer (h : i ∈ offer c properties q) (hkind : i.kind = .operator) :
    ∃ e ∈ c.operators, e.name = i.label := by
  obtain ⟨source, hsource⟩ := exists_source_of_mem_offer h
  obtain rfl : source = .operators := by
    have hkinds := kind_mem_kinds hsource
    rw [hkind] at hkinds
    revert hkinds
    cases source <;> decide
  obtain ⟨e, he, rfl⟩ := List.mem_map.mp hsource
  exact ⟨e, he, rfl⟩

/-- An item is offered exactly if it is the best one of its label. -/
theorem mem_offer_iff :
    i ∈ offer c properties q ↔ best? (matching c properties q) i.key = some i := by
  have hbest : (offer c properties q).filter (·.key == i.key) =
      (best? (matching c properties q) i.key).toList := by
    rw [offer, candidates_eq_matching, filter_key_firstOfEach, if_neg List.not_mem_nil,
      find?_key_mergeSort]
  have hfilter : i ∈ offer c properties q ↔
      i ∈ (offer c properties q).filter (·.key == i.key) := by simp
  rw [hfilter, hbest, Option.mem_toList]

/-- Without the order of the offer, which is not needed, membership is decided faster. -/
instance : Decidable (i ∈ offer c properties q) := decidable_of_iff _ mem_offer_iff.symm

/-! ### Offered names in a scan -/

/-- A table that is offered is flagged unless the catalog that was read lists its name. -/
theorem isFlagged_unknownTable_iff_of_mem_offer {raw : Catalog} {settings : Settings}
    (h : i ∈ offer raw.normalized properties q) (hkind : i.kind = .table)
    (hname : isName isWord i.label.toList = true) :
    IsFlagged raw.normalized settings i.label.toList unknownTable ↔ ¬ raw.Lists i.label := by
  obtain ⟨t, ht, -⟩ := exists_table_of_mem_offer h hkind
  -- the table that is offered shows that there are tables
  have hsome : raw.normalized.tables.isEmpty = false := by
    obtain ⟨e, he, -⟩ := List.mem_map.mp ht
    rw [SortedMap.isEmpty, List.isEmpty_eq_false_iff]
    exact List.ne_nil_of_mem he
  rw [isFlagged_unknownTable_iff hname, String.ofList_toList,
    ← Catalog.beginsStatement_normalized_iff, Bool.not_eq_true]
  exact and_iff_right hsome

/-- An operator that is offered is not flagged behind a pipe. -/
theorem not_isFlagged_unknownOperator_of_mem_offer {settings : Settings}
    (h : i ∈ offer c properties q) (hkind : i.kind = .operator)
    (hname : isName isHyphenated i.label.toList = true) :
    ¬ IsFlagged c settings ('|' :: ' ' :: i.label.toList) unknownOperator := by
  obtain ⟨e, he, hlabel⟩ := exists_operator_of_mem_offer h hkind
  rw [isFlagged_unknownOperator_iff hname, String.ofList_toList, ← hlabel]
  rintro ⟨-, hother⟩
  have hsame : sameIgnoringAsciiCase e.name e.name = true := beq_self_eq_true _
  rw [hother e.name (List.mem_append_left _ (List.mem_map_of_mem he))] at hsame
  cases hsame

/-! ### Documents -/

/-- What holds of the value that is read can be decided by reading it. -/
theorem exists_ok_of_any {α : Type} {x : Except Json.Fault α} {p : α → Prop} [DecidablePred p]
    (h : x.toOption.any (fun a => p a) = true) : ∃ a, x = .ok a ∧ p a := by
  cases x with
  | error fault => cases h
  | ok a => exact ⟨a, rfl, of_decide_eq_true h⟩

/-- With the catalog of a document, a table that is offered is flagged exactly if the document does
not list its name, and never if the document names tables by their keys. An operator that is offered
is not flagged. -/
theorem isFlagged_of_mem_offer {document : String} (h : Catalog.ofDocument document = .ok c) :
    ∃ raw, Catalog.decoder.decode document = .ok raw ∧
      ∀ (settings : Settings) (properties : List String) (q : Query),
        ∀ i ∈ offer c properties q,
          (i.kind = .table → isName isWord i.label.toList = true →
            (IsFlagged c settings i.label.toList unknownTable ↔ ¬ raw.Lists i.label) ∧
              (raw.NamesAreKeys → ¬ IsFlagged c settings i.label.toList unknownTable)) ∧
          (i.kind = .operator → isName isHyphenated i.label.toList = true →
            ¬ IsFlagged c settings ('|' :: ' ' :: i.label.toList) unknownOperator) := by
  obtain ⟨raw, hraw, rfl⟩ : ∃ raw, Catalog.decoder.decode document = .ok raw ∧
      raw.normalized = c := by
    rw [Catalog.ofDocument] at h
    cases hdecode : Catalog.decoder.decode document with
    | error fault =>
      rw [hdecode] at h
      cases h
    | ok raw =>
      rw [hdecode] at h
      cases h
      exact ⟨raw, rfl, rfl⟩
  refine ⟨raw, hraw, fun settings properties q i hi => ⟨?_, ?_⟩⟩
  · intro hkind hname
    have hiff : IsFlagged raw.normalized settings i.label.toList unknownTable ↔
        ¬ raw.Lists i.label := isFlagged_unknownTable_iff_of_mem_offer hi hkind hname
    refine ⟨hiff, fun hkeys hflagged => hiff.mp hflagged ?_⟩
    obtain ⟨t, ht, hlabel⟩ := exists_table_of_mem_offer hi hkind
    exact hlabel ▸ hkeys.lists ht
  · exact not_isFlagged_unknownOperator_of_mem_offer hi

/-- A table without a name of its own, and an operator. -/
def keyedDocument : String :=
  "\x7b\"tables\": \x7b\"Logs\": \x7b\x7d\x7d, \"operators\": [\x7b\"name\": \"take\"\x7d]\x7d"

theorem exists_offer_keyedDocument :
    ∃ c, Catalog.ofDocument keyedDocument = .ok c ∧
      .plain "Logs" .table "Table" .table ∈ offer c [] { context := .startOfStatement } ∧
        .plain "take" .operator "" .operator ∈ offer c [] { context := .afterPipe } :=
  exists_ok_of_any (by decide +kernel)

theorem isFlagged_of_mem_offer_keyedDocument :
    ∃ c, Catalog.ofDocument keyedDocument = .ok c ∧ ∀ settings,
      ¬ IsFlagged c settings "Logs".toList unknownTable ∧
        ¬ IsFlagged c settings ('|' :: ' ' :: "take".toList) unknownOperator := by
  obtain ⟨c, hc, hlogs, htake⟩ := exists_offer_keyedDocument
  obtain ⟨raw, hraw, hflagged⟩ := isFlagged_of_mem_offer hc
  obtain ⟨_, hraw', hkeys⟩ : ∃ raw, Catalog.decoder.decode keyedDocument = .ok raw ∧
      raw.NamesAreKeys := exists_ok_of_any (by decide +kernel)
  cases hraw.symm.trans hraw'
  refine ⟨c, hc, fun settings => ⟨?_, ?_⟩⟩
  · exact ((hflagged settings [] _ _ hlogs).1 rfl (by decide +kernel)).2 hkeys
  · exact (hflagged settings [] _ _ htake).2 rfl (by decide +kernel)

/-- A table with a name besides its key. -/
def renamedDocument : String :=
  "\x7b\"tables\": \x7b\"logs\": \x7b\"name\": \"AppLogs\"\x7d\x7d\x7d"

theorem exists_offer_renamedDocument :
    ∃ c, Catalog.ofDocument renamedDocument = .ok c ∧
      .plain "AppLogs" .table "Table" .table ∈ offer c [] { context := .startOfStatement } ∧
        c.tables.isEmpty = false ∧ beginsStatement c "AppLogs" = false :=
  exists_ok_of_any (by decide +kernel)

/-- A table with a name besides its key is offered by the name and flagged for it. -/
theorem exists_isFlagged_of_mem_offer :
    ∃ c, Catalog.ofDocument renamedDocument = .ok c ∧
      ∃ i ∈ offer c [] { context := .startOfStatement },
        i.kind = .table ∧ isName isWord i.label.toList = true ∧
          ∀ settings, IsFlagged c settings i.label.toList unknownTable := by
  obtain ⟨c, hc, hoffered, hsome, hunknown⟩ := exists_offer_renamedDocument
  have hname : isName isWord "AppLogs".toList = true := by decide +kernel
  refine ⟨c, hc, _, hoffered, rfl, hname, fun settings => ?_⟩
  rw [Item.plain, isFlagged_unknownTable_iff hname, String.ofList_toList]
  exact ⟨hsome, hunknown⟩

end QueryAssist.Completion
