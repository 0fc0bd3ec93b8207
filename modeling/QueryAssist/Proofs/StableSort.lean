import Mathlib.Data.List.Basic
import Mathlib.Data.List.Pairwise

/-!
# Stable sorting

Sorting moves an element only past elements that belong behind it. Elements that stand in order
already stay in the order in which they stand, and two lists that need not be mixed are sorted on
their own.

## Main results

* `filter_mergeSort_of_pairwise` — what is in order already is not rearranged by sorting
* `mergeSort_append` — lists of which one belongs before the other are sorted one after the other
-/

namespace QueryAssist

variable {α : Type*} {le : α → α → Bool} {p : α → Bool} {l l₁ l₂ : List α}

/-- Elements that are in order are found in the same order when everything is sorted. -/
theorem filter_mergeSort_of_pairwise
    (trans : ∀ a b c, le a b = true → le b c = true → le a c = true)
    (total : ∀ a b, (le a b || le b a) = true)
    (h : (l.filter p).Pairwise fun a b => le a b = true) :
    (l.mergeSort le).filter p = l.filter p := by
  have hsub : (l.filter p).Sublist ((l.mergeSort le).filter p) := by
    have hfilter := (List.sublist_mergeSort trans total h List.filter_sublist).filter p
    rwa [List.filter_filter, funext fun a => Bool.and_self (p a)] at hfilter
  have hlen : ((l.mergeSort le).filter p).length = (l.filter p).length :=
    ((List.mergeSort_perm l le).filter p).length_eq
  exact (hsub.eq_of_length hlen.symm).symm

/-- There is one place in a list before which nothing and behind which everything has a property. -/
theorem eq_and_eq_of_append_eq_append {x y x' y' : List α} (h : x ++ y = x' ++ y')
    (hx : ∀ b ∈ x, p b = true) (hy : ∀ b ∈ y, p b = false) (hx' : ∀ b ∈ x', p b = true)
    (hy' : ∀ b ∈ y', p b = false) : x = x' ∧ y = y' := by
  have htake : ∀ {x y : List α}, (∀ b ∈ x, p b = true) → (∀ b ∈ y, p b = false) →
      (x ++ y).takeWhile p = x := by
    intro x y hx hy
    have hnone : y.takeWhile p = [] := by
      cases y with
      | nil => rfl
      | cons b y => rw [List.takeWhile_cons_of_neg (by simp [hy b List.mem_cons_self])]
    rw [List.takeWhile_append_of_pos hx, hnone, List.append_nil]
  obtain rfl : x = x' := by rw [← htake hx hy, h, htake hx' hy']
  exact ⟨rfl, List.append_cancel_left h⟩

/-- If everything in one list belongs before everything in another one, sorting both together is
sorting one after the other. -/
theorem mergeSort_append
    (trans : ∀ a b c, le a b = true → le b c = true → le a c = true)
    (total : ∀ a b, (le a b || le b a) = true)
    (h : ∀ a ∈ l₁, ∀ b ∈ l₂, le a b = true) :
    (l₁ ++ l₂).mergeSort le = l₁.mergeSort le ++ l₂.mergeSort le := by
  induction l₁ with
  | nil => simp
  | cons a l₁ ih =>
    obtain ⟨ha, hl⟩ := List.forall_mem_cons.mp h
    obtain ⟨x, y, hall, hrest, hx⟩ := List.mergeSort_cons trans total a (l₁ ++ l₂)
    obtain ⟨x', y', hall', hrest', hx'⟩ := List.mergeSort_cons trans total a l₁
    -- what is sorted behind the first element does not belong before it
    have hbehind : ∀ {x y : List α} {l : List α}, (a :: l).mergeSort le = x ++ a :: y →
        ∀ b ∈ y, (!le a b) = false := by
      intro x y l hl b hb
      have hsorted := List.pairwise_mergeSort trans total (a :: l)
      rw [hl] at hsorted
      have hpair := List.pairwise_cons.mp (List.pairwise_append.mp hsorted).2.1
      simp [hpair.1 b hb]
    have hbehind' : ∀ b ∈ y' ++ l₂.mergeSort le, (!le a b) = false := by
      intro b hb
      rcases List.mem_append.mp hb with hb | hb
      · exact hbehind hall' b hb
      · simp [ha b (List.mem_mergeSort.mp hb)]
    have hsplit : x ++ y = x' ++ (y' ++ l₂.mergeSort le) := by
      rw [← hrest, ih hl, hrest', List.append_assoc]
    obtain ⟨rfl, rfl⟩ := eq_and_eq_of_append_eq_append hsplit hx (hbehind hall) hx' hbehind'
    rw [List.cons_append, hall, hall', List.append_assoc, List.cons_append]

end QueryAssist
