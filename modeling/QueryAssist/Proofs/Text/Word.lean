import Mathlib.Data.List.Basic
import Mathlib.Data.Nat.Bitwise
import QueryAssist.Text.Blank
import QueryAssist.Text.Numeric
import QueryAssist.Text.Word

/-!
# Blanks are no word characters

Two classes of characters have nothing in common when no range of the one meets a range of the
other. The ranges are many, so this is decided for all of them at once: a class is a number whose
binary digits are its members.

## Main definitions

* `bits` — the number whose binary digits are the members of a list of ranges

## Main results

* `exists_mem_of_inRanges` — a code point in a class lies in one of its ranges
* `not_exists_of_apart`, `inRanges_eq_false_of_apart` — classes without a common digit are disjoint
* `isWord_of_isBlank`, `isAlphanumeric_of_isBlank` — no blank is a word character, a letter or a
  number
* `isWord_of_isAlpha` — every ASCII letter is one
-/

namespace QueryAssist.Text

variable {c : Char} {n : Nat} {ranges ranges' : List (Nat × Nat)}

theorem exists_mem_of_inRanges (h : inRanges n ranges = true) :
    ∃ r ∈ ranges, r.1 ≤ n ∧ n ≤ r.2 := by
  induction ranges with
  | nil => cases h
  | cons r ranges ih =>
    obtain ⟨lo, hi⟩ := r
    rw [inRanges] at h
    split at h
    · -- the search has stopped below this range
      cases h
    · rename_i hlo
      rw [Bool.or_eq_true, decide_eq_true_eq] at h
      rcases h with hhi | h
      · exact ⟨(lo, hi), List.mem_cons_self, Nat.le_of_not_lt hlo, hhi⟩
      · obtain ⟨r, hr, hbounds⟩ := ih h
        exact ⟨r, List.mem_cons_of_mem _ hr, hbounds⟩

/-! ### Classes as numbers -/

/-- The number whose binary digits are the code points in the ranges. -/
def bits (ranges : List (Nat × Nat)) : Nat :=
  ranges.foldr (fun r m => m ||| (2 ^ (r.2 + 1 - r.1) - 1) <<< r.1) 0

theorem testBit_bits :
    (bits ranges).testBit n = true ↔ ∃ r ∈ ranges, r.1 ≤ n ∧ n ≤ r.2 := by
  induction ranges with
  | nil => simp [bits]
  | cons r ranges ih =>
    have hr : n ≥ r.1 ∧ n - r.1 < r.2 + 1 - r.1 ↔ r.1 ≤ n ∧ n ≤ r.2 := by omega
    rw [bits, List.foldr_cons, ← bits, Nat.testBit_or, Bool.or_eq_true, ih, Nat.testBit_shiftLeft,
      Nat.testBit_two_pow_sub_one, Bool.and_eq_true, decide_eq_true_eq, decide_eq_true_eq, hr,
      List.exists_mem_cons_iff, or_comm]

/-- A code point in the ranges of one class is in none of a class without a common digit. -/
theorem not_exists_of_apart (hapart : bits ranges &&& bits ranges' = 0)
    (h : ∃ r ∈ ranges, r.1 ≤ n ∧ n ≤ r.2) : ¬ ∃ r ∈ ranges', r.1 ≤ n ∧ n ≤ r.2 := by
  intro h'
  have hbit : (bits ranges &&& bits ranges').testBit n = true := by
    rw [Nat.testBit_and, testBit_bits.mpr h, testBit_bits.mpr h']
    rfl
  rw [hapart, Nat.zero_testBit] at hbit
  cases hbit

theorem inRanges_eq_false_of_apart (hapart : bits ranges &&& bits ranges' = 0)
    (h : inRanges n ranges = true) : inRanges n ranges' = false := by
  rw [← Bool.not_eq_true]
  exact fun h' => not_exists_of_apart hapart (exists_mem_of_inRanges h) (exists_mem_of_inRanges h')

/-! ### Blanks and letters -/

/-- No blank is a word character. -/
theorem isWord_of_isBlank (h : isBlank c = true) : isWord c = false :=
  inRanges_eq_false_of_apart (by decide +kernel) h

/-- No blank is alphabetic or numeric. -/
theorem isAlphanumeric_of_isBlank (h : isBlank c = true) : isAlphanumeric c = false :=
  Bool.or_eq_false_iff.mpr
    ⟨inRanges_eq_false_of_apart (by decide +kernel) h,
      inRanges_eq_false_of_apart (by decide +kernel) h⟩

/-- Blanks below the code points of ASCII letters are separators, and no other blank is an ASCII
character. -/
theorem toNat_of_isBlank (h : isBlank c = true) : c.toNat ≤ 0x20 ∨ 0x85 ≤ c.toNat := by
  obtain ⟨r, hr, hlo, hhi⟩ := exists_mem_of_inRanges h
  have hranges : ∀ r ∈ blankRanges, r.2 ≤ 0x20 ∨ 0x85 ≤ r.1 := by decide
  rcases hranges r hr with hbelow | habove
  · exact Or.inl (Nat.le_trans hhi hbelow)
  · exact Or.inr (Nat.le_trans habove hlo)

/-- The code points of ASCII letters are in the class. -/
theorem inRanges_wordRanges_of_letter :
    ∀ n < 0x80, ((0x41 ≤ n ∧ n ≤ 0x5A) ∨ (0x61 ≤ n ∧ n ≤ 0x7A)) → inRanges n wordRanges = true := by
  decide +kernel

/-- Every ASCII letter is a word character. -/
theorem isWord_of_isAlpha (h : c.isAlpha = true) : isWord c = true := by
  have hletter : (0x41 ≤ c.toNat ∧ c.toNat ≤ 0x5A) ∨ (0x61 ≤ c.toNat ∧ c.toNat ≤ 0x7A) := by
    unfold Char.isAlpha Char.isUpper Char.isLower at h
    simpa [UInt32.le_iff_toNat_le, ← Char.toNat_val] using h
  exact inRanges_wordRanges_of_letter c.toNat (by omega) hletter

end QueryAssist.Text
