import Mathlib.Data.List.Basic
import Mathlib.Data.List.Infix
import Mathlib.Data.List.Pairwise
import Mathlib.Data.String.Basic
import QueryAssist.Completion.Offer
import QueryAssist.Proofs.StableSort

/-!
# What an offer consists of

Sorting puts the best group first and leaves items of one label and one group in the order of the
sources. Of every label the first item is kept after that, so the best one stays.

## Main definitions

* `Completion.matching` — the items that contain the word being typed
* `Completion.best?` — the first item of the best group among those with a label
* `Completion.Request.readAll` — the items that a request gives, one after the other

## Main results

* `filter_key_firstOfEach` — of every label the first item is kept
* `find?_key_mergeSort` — the first item of a label after sorting is the best one
* `Request.readAll_eq_items` — reading a request gives its items
* `Request.readAll_fresh` — a request gives the best item of every label, in order
-/

namespace QueryAssist.Completion

variable {l : List Item} {i j : Item} {key : String}

/-! ### The items that are considered -/

/-- The label or the remark of an item contains a word, case aside; every item contains the empty
word. -/
def Item.Contains (word : String) (i : Item) : Prop :=
  word = "" ∨ (Text.lower word).toList <:+: (Text.lower i.label).toList ∨
    (Text.lower word).toList <:+: (Text.lower i.detail).toList

instance (word : String) : DecidablePred (Item.Contains word) := fun _ =>
  inferInstanceAs (Decidable (word = "" ∨ _ <:+: _ ∨ _ <:+: _))

/-- The items of the sources that contain the word being typed, in the order of the sources. -/
def matching (c : Catalog) (properties : List String) (q : Query) : List Item :=
  ((sources q.context).flatMap (sourceItems c properties q)).filter
    fun i => i.Contains q.partialWord

theorem containsText_iff (needle s : List Char) : containsText needle s = true ↔ needle <:+: s := by
  induction s with
  | nil => simp [containsText]
  | cons c s ih =>
    rw [containsText, Bool.or_eq_true, ih, List.isPrefixOf_iff_prefix, List.infix_cons_iff]

theorem mentions_lower_iff (word : String) (i : Item) :
    i.mentions (Text.lower word) = true ↔ i.Contains word := by
  rw [Item.mentions, Bool.or_eq_true, Bool.or_eq_true, containsText_iff, containsText_iff, or_assoc,
    Item.Contains]
  constructor
  · rintro (hempty | hinfix)
    · -- a word without characters in lower case is contained everywhere
      have hnil : (Text.lower word).toList = [] := by simpa using hempty
      exact Or.inr (Or.inl (hnil ▸ List.nil_infix))
    · exact Or.inr hinfix
  · rintro (rfl | hinfix)
    · exact Or.inl rfl
    · exact Or.inr hinfix

theorem candidates_eq_matching (c : Catalog) (properties : List String) (q : Query) :
    candidates c properties q = matching c properties q := by
  refine List.filter_congr fun i _ => ?_
  rw [Bool.eq_iff_iff, mentions_lower_iff, decide_eq_true_eq]

/-! ### The first item of every label -/

theorem firstOfEach_sublist (seen : List String) (l : List Item) :
    (firstOfEach seen l).Sublist l := by
  induction l generalizing seen with
  | nil => exact List.Sublist.refl _
  | cons i l ih =>
    rw [firstOfEach]
    split
    · exact (ih seen).cons i
    · exact (ih (i.key :: seen)).cons_cons i

/-- Of every label that has not been seen the first item is kept, and nothing of the others. -/
theorem filter_key_firstOfEach (key : String) (seen : List String) (l : List Item) :
    (firstOfEach seen l).filter (·.key == key) =
      if key ∈ seen then [] else (l.find? (·.key == key)).toList := by
  induction l generalizing seen with
  | nil => simp [firstOfEach]
  | cons i l ih =>
    by_cases hkey : i.key = key
    · -- the first item with the label: it is kept unless the label has been seen before
      subst hkey
      by_cases hseen : i.key ∈ seen
      · rw [firstOfEach, if_pos (by simpa using hseen), ih]
        simp [hseen]
      · rw [firstOfEach, if_neg (by simpa using hseen), List.filter_cons_of_pos (by simp), ih]
        simp [hseen]
    · -- an item with another label neither counts nor hides what follows
      have hfind : (i :: l).find? (·.key == key) = l.find? (·.key == key) :=
        List.find?_cons_of_neg (by simpa using hkey)
      rw [hfind, firstOfEach]
      split
      · exact ih seen
      · rw [List.filter_cons_of_neg (by simpa using hkey), ih]
        simp [Ne.symm hkey]

/-- No two of the items that are kept have the same label. -/
theorem pairwise_key_ne_firstOfEach (seen : List String) (l : List Item) :
    (firstOfEach seen l).Pairwise fun i j => i.key ≠ j.key := by
  induction l generalizing seen with
  | nil => exact List.Pairwise.nil
  | cons i l ih =>
    rw [firstOfEach]
    split
    · exact ih seen
    · refine List.pairwise_cons.mpr ⟨fun j hj heq => ?_, ih (i.key :: seen)⟩
      have hnone := filter_key_firstOfEach i.key (i.key :: seen) l
      rw [if_pos List.mem_cons_self, List.filter_eq_nil_iff] at hnone
      exact hnone j hj (beq_iff_eq.mpr heq.symm)

/-! ### The order of an offer -/

/-- One item comes before another one: its group does, or the groups are the same and its label in
lower case is smaller. -/
def Item.Before (i j : Item) : Prop :=
  i.tier.rank < j.tier.rank ∨ (i.tier.rank = j.tier.rank ∧ i.key < j.key)

theorem precedes_iff :
    i.precedes j = true ↔
      i.tier.rank < j.tier.rank ∨ (i.tier.rank = j.tier.rank ∧ i.key ≤ j.key) := by
  simp [Item.precedes]

theorem precedes_trans (i j k : Item) (h : i.precedes j = true) (h' : j.precedes k = true) :
    i.precedes k = true := by
  rw [precedes_iff] at h h' ⊢
  rcases h with h | ⟨h, hkey⟩
  · left
    rcases h' with h' | ⟨h', -⟩ <;> omega
  · rcases h' with h' | ⟨h', hkey'⟩
    · left
      omega
    · exact Or.inr ⟨h.trans h', hkey.trans hkey'⟩

theorem precedes_total (i j : Item) : (i.precedes j || j.precedes i) = true := by
  rw [Bool.or_eq_true, precedes_iff, precedes_iff]
  rcases Nat.lt_trichotomy i.tier.rank j.tier.rank with h | h | h
  · exact Or.inl (Or.inl h)
  · rcases le_total i.key j.key with hkey | hkey
    · exact Or.inl (Or.inr ⟨h, hkey⟩)
    · exact Or.inr (Or.inr ⟨h.symm, hkey⟩)
  · exact Or.inr (Or.inl h)

/-- Items of different labels that are not in the wrong order are in the right one. -/
theorem before_of_precedes (h : i.precedes j = true) (hkey : i.key ≠ j.key) : i.Before j := by
  rcases precedes_iff.mp h with h | ⟨h, hle⟩
  · exact Or.inl h
  · exact Or.inr ⟨h, lt_of_le_of_ne hle hkey⟩

theorem pairwise_precedes_mergeSort (l : List Item) :
    (l.mergeSort Item.precedes).Pairwise fun i j => i.precedes j = true :=
  List.pairwise_mergeSort precedes_trans precedes_total l

/-! ### The best item of a label -/

/-- No item of the same label is in a better group. -/
def IsBest (l : List Item) (i : Item) : Prop :=
  ∀ j ∈ l, j.key = i.key → i.tier.rank ≤ j.tier.rank

instance (l : List Item) : DecidablePred (IsBest l) := fun i =>
  inferInstanceAs (Decidable (∀ j ∈ l, j.key = i.key → i.tier.rank ≤ j.tier.rank))

/-- The first item of the best group among those with a label. -/
def best? (l : List Item) (key : String) : Option Item :=
  l.find? fun i => i.key = key ∧ IsBest l i

/-- What is found first is also found first by a narrower search that accepts it. -/
theorem find?_of_find? {α : Type*} {p p' : α → Bool} {l : List α} {a : α}
    (h : l.find? p' = some a) (ha : p a = true) (hp : ∀ b, p b = true → p' b = true) :
    l.find? p = some a := by
  obtain ⟨-, before, after, rfl, hbefore⟩ := List.find?_eq_some_iff_append.mp h
  refine List.find?_eq_some_iff_append.mpr ⟨ha, before, after, rfl, fun b hb => ?_⟩
  rw [Bool.not_eq_true', ← Bool.not_eq_true]
  intro hpb
  have hnot := hbefore b hb
  rw [hp b hpb] at hnot
  cases hnot

/-- The first item of a label after sorting is in the best group. -/
theorem isBest_of_find?_mergeSort
    (h : (l.mergeSort Item.precedes).find? (·.key == key) = some i) :
    i.key = key ∧ i ∈ l ∧ IsBest l i := by
  obtain ⟨hkey, before, after, hsplit, hbefore⟩ := List.find?_eq_some_iff_append.mp h
  obtain rfl := beq_iff_eq.mp hkey
  have hmem : ∀ j, j ∈ before ++ i :: after ↔ j ∈ l := fun j => by
    rw [← hsplit, List.mem_mergeSort]
  refine ⟨rfl, (hmem i).mp (by simp), fun j hj hjkey => ?_⟩
  have hsorted := pairwise_precedes_mergeSort l
  rw [hsplit] at hsorted
  -- where an item of the same label stands after sorting decides how its group compares
  rcases List.mem_append.mp ((hmem j).mpr hj) with hj | hj
  · -- before the first item of the label there is none of it
    have hnot := hbefore j hj
    simp [hjkey] at hnot
  · rcases List.mem_cons.mp hj with rfl | hj
    · exact Nat.le_refl _
    · have hrel := (List.pairwise_cons.mp (List.pairwise_append.mp hsorted).2.1).1 j hj
      rcases precedes_iff.mp hrel with h | ⟨h, -⟩ <;> omega

/-- The first item of a label after sorting is the best one before. -/
theorem find?_key_mergeSort (l : List Item) (key : String) :
    (l.mergeSort Item.precedes).find? (·.key == key) = best? l key := by
  cases h : (l.mergeSort Item.precedes).find? (·.key == key) with
  | none =>
    have hnone : ∀ i ∈ l, ¬ i.key = key := fun i hi => by
      simpa using List.find?_eq_none.mp h i (List.mem_mergeSort.mpr hi)
    refine (List.find?_eq_none.mpr fun i hi hbest => ?_).symm
    exact hnone i hi (of_decide_eq_true hbest).1
  | some i =>
    obtain ⟨hkey, hmem, hbest⟩ := isBest_of_find?_mergeSort h
    -- the best items of the label are all in one group, so that sorting keeps their order
    have hgroup : (l.filter fun i => i.key = key ∧ IsBest l i).Pairwise
        fun i j => i.precedes j = true := by
      refine List.pairwise_of_forall_mem_list fun j hj k hk => ?_
      obtain ⟨hj, hjbest⟩ := List.mem_filter.mp hj
      obtain ⟨hk, hkbest⟩ := List.mem_filter.mp hk
      obtain ⟨hjkey, hjbest⟩ := of_decide_eq_true hjbest
      obtain ⟨hkkey, hkbest⟩ := of_decide_eq_true hkbest
      have hle := hjbest k hk (hkkey.trans hjkey.symm)
      have hge := hkbest j hj (hjkey.trans hkkey.symm)
      exact precedes_iff.mpr (Or.inr ⟨by omega, (hjkey.trans hkkey.symm).le⟩)
    have hkept := filter_mergeSort_of_pairwise precedes_trans precedes_total hgroup
    have hfirst : (l.mergeSort Item.precedes).find? (fun i => i.key = key ∧ IsBest l i) = some i :=
      find?_of_find? h (decide_eq_true ⟨hkey, hbest⟩) fun j hj =>
        beq_iff_eq.mpr (of_decide_eq_true hj).1
    rw [best?, ← List.head?_filter, ← hkept, List.head?_filter, hfirst]

/-- A label has a best item exactly if some item has it. -/
theorem isSome_best?_iff : (best? l key).isSome = true ↔ ∃ i ∈ l, i.key = key := by
  rw [← find?_key_mergeSort, List.find?_isSome]
  simp

/-! ### Reading a request -/

namespace Request

variable {r r' : Request}

theorem items_of_next_eq_none (h : r.next = (none, r')) : r.items = [] := by
  unfold next at h
  split at h
  · assumption
  · cases h

/-- The item that a request gives next is the first one it has, and the others stay. -/
theorem items_of_next_eq_some (h : r.next = (some i, r')) : r.items = i :: r'.items := by
  unfold next at h
  split at h
  · cases h
  · rename_i hitems
    cases h
    exact hitems

/-- The items that a request gives until it has none left. -/
def readAll (r : Request) : List Item :=
  match h : r.next with
  | (none, _) => []
  | (some i, r') =>
    have : r'.items.length < r.items.length := by
      rw [items_of_next_eq_some h]
      exact Nat.lt_succ_self _
    i :: r'.readAll
termination_by r.items.length

/-- Reading a request gives its items, one after the other. -/
theorem readAll_eq_items (r : Request) : r.readAll = r.items := by
  fun_induction readAll r with
  | case1 r r' h => exact (items_of_next_eq_none h).symm
  | case2 r i r' h _ ih => rw [ih, items_of_next_eq_some h]

/-- Reading a request to its end gives the best item of every label among those that match, and the
items come strictly in order. -/
theorem readAll_fresh (c : Catalog) (properties : List String) (q : Query) :
    let items := readAll { catalog := c, properties := properties, query := q }
    (∀ key, items.filter (·.key == key) = (best? (matching c properties q) key).toList) ∧
      (∀ key, (best? (matching c properties q) key).isSome = true ↔
        ∃ i ∈ matching c properties q, i.key = key) ∧
      items.Pairwise Item.Before := by
  dsimp only
  rw [readAll_eq_items]
  change (∀ key, (offer c properties q).filter _ = _) ∧ _ ∧ (offer c properties q).Pairwise _
  rw [offer, candidates_eq_matching]
  refine ⟨fun key => ?_, fun key => isSome_best?_iff, ?_⟩
  · -- of every label the first item is kept, which sorting has made the best one
    rw [filter_key_firstOfEach, if_neg List.not_mem_nil, find?_key_mergeSort]
  · -- what is kept of sorted items is sorted, and different labels make the order strict
    have hsorted := (pairwise_precedes_mergeSort (matching c properties q)).sublist
      (firstOfEach_sublist [] _)
    exact hsorted.imp₂ (fun _ _ h hkey => before_of_precedes h hkey)
      (pairwise_key_ne_firstOfEach [] _)

end Request

end QueryAssist.Completion
