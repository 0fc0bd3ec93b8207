import Mathlib.Data.List.Infix
import QueryAssist.Proofs.Completion.Accepted

/-!
# Typing more narrows an offer

A longer word is contained in fewer items, so the items that match it are some of those that match
the shorter one. Which item of a label is offered may change, because the best item of the label need
not contain the longer word; the label itself was offered before, in a group at least as good.

## Main results

* `Item.Contains.of_infix` — an item that contains a word contains what the word contains
* `matching_partialWord` — the items that match more of a word, among those that match less
* `mem_offer_of_contains` — an item stays offered as long as it contains the word
* `exists_mem_offer_of_mem_offer` — a label that is offered for more of a word is offered for less
-/

namespace QueryAssist.Completion

variable {c : Catalog} {properties : List String} {q : Query} {word word' : String} {i : Item}
  {l : List Item}

/-! ### Words and what they contain -/

/-- An item that contains a word contains everything that the word contains, case aside. -/
theorem Item.Contains.of_infix (h : i.Contains word')
    (hword : (Text.lower word).toList <:+: (Text.lower word').toList) : i.Contains word := by
  rcases h with rfl | hlabel | hdetail
  · -- nothing but the empty word is contained in the empty word
    have hempty : (Text.lower "").toList = [] := by simp [Text.lower, Text.lowerAfter]
    rw [hempty, List.infix_nil] at hword
    rw [Item.Contains, hword]
    exact Or.inr (Or.inl List.nil_infix)
  · exact Or.inr (Or.inl (hword.trans hlabel))
  · exact Or.inr (Or.inr (hword.trans hdetail))

/-- What is matched with another word is found among the same items. -/
theorem matching_with_partialWord (c : Catalog) (properties : List String) (q : Query)
    (word : String) :
    matching c properties { q with partialWord := word } =
      (allItems c properties q).filter fun i => i.Contains word := by
  have hsource : sourceItems c properties { q with partialWord := word } =
      sourceItems c properties q := by
    funext source
    cases source <;> rfl
  rw [matching, allItems, hsource]

/-- The items that match more of a word are those that match less of it and contain the rest. -/
theorem matching_partialWord
    (h : (Text.lower q.partialWord).toList <:+: (Text.lower word).toList) :
    matching c properties { q with partialWord := word } =
      (matching c properties q).filter fun i => i.Contains word := by
  have hq : matching c properties q =
      (allItems c properties q).filter fun i => i.Contains q.partialWord := rfl
  rw [matching_with_partialWord, hq, List.filter_filter]
  refine List.filter_congr fun i _ => ?_
  rw [Bool.eq_iff_iff, Bool.and_eq_true, decide_eq_true_eq, decide_eq_true_eq]
  exact (and_iff_left_of_imp fun hword => hword.of_infix h).symm

/-! ### The best item among fewer items -/

theorem isBest_of_best?_eq_some {key : String} (h : best? l key = some i) :
    i.key = key ∧ i ∈ l ∧ IsBest l i :=
  isBest_of_find?_mergeSort ((find?_key_mergeSort l key).trans h)

/-- The best item of a label is not worse than any item of the label. -/
theorem exists_best?_of_mem (h : i ∈ l) :
    ∃ j, best? l j.key = some j ∧ j.key = i.key ∧ j.tier.rank ≤ i.tier.rank := by
  obtain ⟨j, hj⟩ := Option.isSome_iff_exists.mp (isSome_best?_iff.mpr ⟨i, h, rfl⟩)
  obtain ⟨hkey, -, hbest⟩ := isBest_of_best?_eq_some hj
  exact ⟨j, hkey ▸ hj, hkey, hbest i h hkey.symm⟩

/-- The best item of a label stays the best one as long as it is not left out. -/
theorem best?_filter {p : Item → Bool} (h : best? l i.key = some i) (hi : p i = true) :
    best? (l.filter p) i.key = some i := by
  obtain ⟨-, hmem, hbest⟩ := isBest_of_best?_eq_some h
  have hmem' : i ∈ l.filter p := List.mem_filter.mpr ⟨hmem, hi⟩
  have hbest' : IsBest (l.filter p) i := fun j hj => hbest j (List.mem_filter.mp hj).1
  rw [best?, List.find?_filter]
  refine find?_of_find? h (by simpa using ⟨hi, hbest'⟩) fun j hj => ?_
  -- an item as good as the best one that is left is as good as the best one of all
  obtain ⟨-, hkey, hjbest⟩ : p j = true ∧ j.key = i.key ∧ IsBest (l.filter p) j := by
    simpa using hj
  have hle : j.tier.rank ≤ i.tier.rank := hjbest i hmem' hkey.symm
  exact decide_eq_true
    ⟨hkey, fun k hk hkkey => hle.trans (hbest k hk (hkkey.trans hkey))⟩

/-! ### Offers -/

/-- An item that is offered stays offered as long as it contains the word being typed. -/
theorem mem_offer_of_contains (h : i ∈ offer c properties q)
    (hword : (Text.lower q.partialWord).toList <:+: (Text.lower word).toList)
    (hi : i.Contains word) : i ∈ offer c properties { q with partialWord := word } := by
  rw [mem_offer_iff, matching_partialWord hword]
  exact best?_filter (mem_offer_iff.mp h) (decide_eq_true hi)

/-- A label that is offered for a word is offered for everything that the word contains, in a group
at least as good. -/
theorem exists_mem_offer_of_mem_offer (c : Catalog) (properties : List String) (q : Query)
    (word : String) (h : (Text.lower q.partialWord).toList <:+: (Text.lower word).toList) :
    ∀ i ∈ offer c properties { q with partialWord := word },
      ∃ j ∈ offer c properties q, j.key = i.key ∧ j.tier.rank ≤ i.tier.rank := by
  intro i hi
  have hmem : i ∈ matching c properties q := by
    have hmatch := (isBest_of_best?_eq_some (mem_offer_iff.mp hi)).2.1
    rw [matching_partialWord h] at hmatch
    exact (List.mem_filter.mp hmatch).1
  obtain ⟨j, hj, hkey, hle⟩ := exists_best?_of_mem hmem
  exact ⟨j, mem_offer_iff.mpr hj, hkey, hle⟩

/-- An operator and a keyword of the same name, with different remarks. -/
def ambiguousCatalog : Catalog where
  operators := [{ name := "where", category := "Filter" }]
  keywords := [{ name := "Where", category := "Clause" }]

/-- The keyword is offered in place of the operator once the word is found in its remark only. -/
theorem exists_mem_offer_of_mem_offer_ambiguousCatalog :
    let i : Item := .plain "Where" .keyword "Clause" .keyword
    i ∈ offer ambiguousCatalog [] { context := .other, partialWord := "LA" } ∧
      i ∉ offer ambiguousCatalog [] { context := .other, partialWord := "l" } ∧
        ∃ j ∈ offer ambiguousCatalog [] { context := .other, partialWord := "l" },
          j.key = i.key ∧ j.tier.rank ≤ i.tier.rank := by
  intro i
  have hi : i ∈ offer ambiguousCatalog [] { context := .other, partialWord := "LA" } := by
    decide +kernel
  exact ⟨hi, by decide +kernel,
    exists_mem_offer_of_mem_offer ambiguousCatalog [] { context := .other, partialWord := "l" } "LA"
      (by decide +kernel) i hi⟩

end QueryAssist.Completion
