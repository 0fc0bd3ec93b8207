import Mathlib.Data.List.Basic
import QueryAssist.Proofs.Text.Word
import QueryAssist.Text.LetterCase

/-!
# What lower-casing keeps

Lower-casing changes capitals only and leaves none, so a second time it changes nothing. Of two
texts that differ only in the case of ASCII letters it makes the same text: what decides on the form
of a sigma is whether its neighbours have case, and not which.

## Main definitions

* `Text.IsCapital` — a character that lower-casing changes
* `Text.IsAscii` — a text without characters beyond ASCII

## Main results

* `lower_lower` — lower-casing twice is lower-casing once
* `lower_eq_of_sameIgnoringAsciiCase` — the case of ASCII letters does not matter
* `sameIgnoringAsciiCase_of_lower_eq` — between texts in ASCII nothing else matters
-/

namespace QueryAssist.Text

variable {s t : String} {l before after : List Char} {c d : Char} {n : Nat}

/-! ### Capitals and their lower cases -/

theorem any_lowerPairs_iff :
    (lowerPairs.any fun r => r.1 ≤ n && n ≤ r.2 && (n - r.1) % 2 == 0) = true ↔
      ∃ r ∈ lowerPairs, r.1 ≤ n ∧ n ≤ r.2 ∧ (n - r.1) % 2 = 0 := by
  simp [and_assoc]

/-- The code points of the pairs, each a range by itself: the first ones moved on by `d`. -/
def pairRanges (d : Nat) : List (Nat × Nat) :=
  lowerPairs.flatMap fun r =>
    (List.range ((r.2 - r.1) / 2 + 1)).map fun i => (r.1 + 2 * i + d, r.1 + 2 * i + d)

theorem mem_pairRanges {r : Nat × Nat} (hr : r ∈ lowerPairs) (hlo : r.1 ≤ n) (hhi : n ≤ r.2)
    (heven : (n - r.1) % 2 = 0) (d : Nat) : (n + d, n + d) ∈ pairRanges d := by
  refine List.mem_flatMap.mpr ⟨r, hr, List.mem_map.mpr ⟨(n - r.1) / 2, ?_, ?_⟩⟩
  · rw [List.mem_range]
    omega
  · have hn : r.1 + 2 * ((n - r.1) / 2) = n := by omega
    rw [hn]

/-- The code points that lower-casing changes, those with a rule of their own first. -/
def capitalRanges : List (Nat × Nat) :=
  [(0x130, 0x130), (0x3A3, 0x3A3)] ++ lowerRuns.map (fun r => (r.1, r.2.1)) ++ pairRanges 0

/-- The code points that lower-casing leads to, those of the special rules first. A code point that
does not exist stands for the first one of all. -/
def smallRanges : List (Nat × Nat) :=
  [(0, 0), (0x69, 0x69), (0x307, 0x307), (0x3C2, 0x3C3)] ++
    lowerRuns.map (fun r => (r.2.2, r.2.2 + (r.2.1 - r.1))) ++ pairRanges 1

/-- Lower-casing leads to no capital. -/
theorem not_exists_capitalRanges (h : ∃ r ∈ smallRanges, r.1 ≤ n ∧ n ≤ r.2) :
    ¬ ∃ r ∈ capitalRanges, r.1 ≤ n ∧ n ≤ r.2 :=
  not_exists_of_apart (by decide +kernel) h

/-- Outside of the runs a code point stays, and inside one it moves with the run. -/
theorem lowerByRuns_eq (n : Nat) (runs : List (Nat × Nat × Nat)) :
    lowerByRuns n runs = n ∨
      ∃ r ∈ runs, r.1 ≤ n ∧ n ≤ r.2.1 ∧ lowerByRuns n runs = r.2.2 + (n - r.1) := by
  induction runs with
  | nil => exact Or.inl rfl
  | cons r runs ih =>
    obtain ⟨lo, hi, low⟩ := r
    rw [lowerByRuns]
    split
    · exact Or.inl rfl
    · split
      · rename_i hlo hhi
        exact Or.inr ⟨_, List.mem_cons_self, Nat.le_of_not_lt hlo, hhi, rfl⟩
      · exact ih.imp_right fun ⟨r, hr, h⟩ => ⟨r, List.mem_cons_of_mem _ hr, h⟩

/-! ### Single characters -/

/-- A character that lower-casing changes. -/
def IsCapital (c : Char) : Prop := c = 'İ' ∨ c = 'Σ' ∨ lowerChar c ≠ c

/-- A code point that does not exist stands for the first one. -/
theorem toNat_ofNat_eq_or (n : Nat) : (Char.ofNat n).toNat = n ∨ Char.ofNat n = '\x00' := by
  by_cases h : n.isValidChar
  · left
    have heq : Char.ofNat n = Char.ofNatAux n h := dif_pos h
    rw [heq]
    rfl
  · right
    exact dif_neg h

theorem not_isCapital_of_not_exists
    (h : ¬ ∃ r ∈ capitalRanges, r.1 ≤ c.toNat ∧ c.toNat ≤ r.2) : ¬ IsCapital c := by
  rintro (rfl | rfl | hchange)
  · exact h ⟨(0x130, 0x130), by simp [capitalRanges], by decide⟩
  · exact h ⟨(0x3A3, 0x3A3), by simp [capitalRanges], by decide⟩
  · apply hchange
    have hpairs : ¬ (lowerPairs.any fun r =>
        r.1 ≤ c.toNat && c.toNat ≤ r.2 && (c.toNat - r.1) % 2 == 0) = true := by
      rw [any_lowerPairs_iff]
      rintro ⟨r, hr, hlo, hhi, heven⟩
      exact h ⟨_, List.mem_append_right _ (mem_pairRanges hr hlo hhi heven 0), le_rfl, le_rfl⟩
    have hruns : lowerByRuns c.toNat lowerRuns = c.toNat := by
      refine (lowerByRuns_eq c.toNat lowerRuns).resolve_right ?_
      rintro ⟨r, hr, hlo, hhi, -⟩
      exact h ⟨(r.1, r.2.1), List.mem_append_left _ (List.mem_append_right _
        (List.mem_map_of_mem hr)), hlo, hhi⟩
    rw [lowerChar, if_neg hpairs, hruns, Char.ofNat_toNat]

theorem not_isCapital_ofNat (h : ∃ r ∈ smallRanges, r.1 ≤ n ∧ n ≤ r.2) :
    ¬ IsCapital (Char.ofNat n) := by
  apply not_isCapital_of_not_exists
  rcases toNat_ofNat_eq_or n with hn | hn
  · rw [hn]
    exact not_exists_capitalRanges h
  · rw [hn]
    exact not_exists_capitalRanges ⟨(0, 0), by simp [smallRanges], by decide⟩

/-- The lower case of a character is no capital, unless the character has a rule of its own. -/
theorem not_isCapital_lowerChar (hdotted : c ≠ 'İ') (hsigma : c ≠ 'Σ') :
    ¬ IsCapital (lowerChar c) := by
  have hstays : lowerChar c = c → ¬ IsCapital (lowerChar c) := by
    intro h
    rw [h, IsCapital]
    simp [hdotted, hsigma, h]
  by_cases hpair : (lowerPairs.any fun r =>
      r.1 ≤ c.toNat && c.toNat ≤ r.2 && (c.toNat - r.1) % 2 == 0) = true
  · obtain ⟨r, hr, hlo, hhi, heven⟩ := any_lowerPairs_iff.mp hpair
    rw [lowerChar, if_pos hpair]
    exact not_isCapital_ofNat
      ⟨_, List.mem_append_right _ (mem_pairRanges hr hlo hhi heven 1), le_rfl, le_rfl⟩
  · have hruns : lowerChar c = Char.ofNat (lowerByRuns c.toNat lowerRuns) := by
      rw [lowerChar, if_neg hpair]
    rcases lowerByRuns_eq c.toNat lowerRuns with h | ⟨r, hr, hlo, hhi, h⟩
    · rw [h, Char.ofNat_toNat] at hruns
      exact hstays hruns
    · rw [hruns, h]
      have hr' : (r.2.2, r.2.2 + (r.2.1 - r.1)) ∈ smallRanges :=
        List.mem_append_left _ (List.mem_append_right _
          (List.mem_map_of_mem (f := fun r => (r.2.2, r.2.2 + (r.2.1 - r.1))) hr))
      exact not_isCapital_ofNat ⟨_, hr', Nat.le_add_right _ _, by dsimp only; omega⟩

/-- The table agrees with the case of ASCII letters. -/
theorem lowerChar_of_ascii (h : c.toNat < 0x80) : lowerChar c = c.toLower := by
  have hpairs : ∀ r ∈ lowerPairs, 0x80 ≤ r.1 := by decide +kernel
  have hruns : ∀ n < 0x80, lowerByRuns n lowerRuns = (Char.ofNat n).toLower.toNat := by
    decide +kernel
  have hnone : ¬ (lowerPairs.any fun r =>
      r.1 ≤ c.toNat && c.toNat ≤ r.2 && (c.toNat - r.1) % 2 == 0) = true := by
    rw [any_lowerPairs_iff]
    rintro ⟨r, hr, hlo, -⟩
    exact absurd (Nat.le_trans (hpairs r hr) hlo) (Nat.not_le.mpr h)
  rw [lowerChar, if_neg hnone, hruns c.toNat h, Char.ofNat_toNat, Char.ofNat_toNat]

/-- Characters without a rule of their own are made lower case one by one. -/
theorem lowerBetween_eq (hdotted : c ≠ 'İ') (hsigma : c ≠ 'Σ') (before after : List Char) :
    lowerBetween before c after = [lowerChar c] := by
  rw [lowerBetween, if_neg hdotted, if_neg hsigma]
  split
  · rw [lowerChar_of_ascii ‹_›]
  · rfl

theorem lowerBetween_of_ascii (h : c.toNat < 0x80) (before after : List Char) :
    lowerBetween before c after = [c.toLower] := by
  have hdotted : c ≠ 'İ' := by
    rintro rfl
    exact absurd h (by decide)
  have hsigma : c ≠ 'Σ' := by
    rintro rfl
    exact absurd h (by decide)
  rw [lowerBetween_eq hdotted hsigma, lowerChar_of_ascii h]

theorem not_isCapital_of_mem_lowerBetween (h : d ∈ lowerBetween before c after) :
    ¬ IsCapital d := by
  have hspecial : ∀ n, (∃ r ∈ [(0x69, 0x69), (0x307, 0x307), (0x3C2, 0x3C3)], r.1 ≤ n ∧ n ≤ r.2) →
      ¬ IsCapital (Char.ofNat n) := by
    rintro n ⟨r, hr, hn⟩
    exact not_isCapital_ofNat
      ⟨r, List.mem_append_left _ (List.mem_append_left _ (List.mem_cons_of_mem _ hr)), hn⟩
  by_cases hdotted : c = 'İ'
  · rw [lowerBetween, if_pos hdotted, List.mem_pair] at h
    rcases h with rfl | rfl
    · exact hspecial 0x69 (by decide)
    · exact hspecial 0x307 (by decide)
  by_cases hsigma : c = 'Σ'
  · rw [lowerBetween, if_neg hdotted, if_pos hsigma, List.mem_singleton] at h
    split at h
    · exact h ▸ hspecial 0x3C2 (by decide)
    · exact h ▸ hspecial 0x3C3 (by decide)
  · rw [lowerBetween_eq hdotted hsigma, List.mem_singleton] at h
    exact h ▸ not_isCapital_lowerChar hdotted hsigma

theorem lowerBetween_of_not_isCapital (h : ¬ IsCapital c) (before after : List Char) :
    lowerBetween before c after = [c] := by
  obtain ⟨hdotted, hsigma, hstays⟩ : c ≠ 'İ' ∧ c ≠ 'Σ' ∧ lowerChar c = c := by
    simpa [IsCapital] using h
  rw [lowerBetween_eq hdotted hsigma, hstays]

/-! ### Texts -/

theorem not_isCapital_of_mem_lowerAfter (h : d ∈ lowerAfter before l) : ¬ IsCapital d := by
  induction l generalizing before with
  | nil => cases h
  | cons c l ih =>
    rcases List.mem_append.mp h with h | h
    · exact not_isCapital_of_mem_lowerBetween h
    · exact ih h

/-- A text without capitals stays as it is. -/
theorem lowerAfter_of_not_isCapital (h : ∀ c ∈ l, ¬ IsCapital c) (before : List Char) :
    lowerAfter before l = l := by
  induction l generalizing before with
  | nil => rfl
  | cons c l ih =>
    obtain ⟨hc, hl⟩ := List.forall_mem_cons.mp h
    rw [lowerAfter, lowerBetween_of_not_isCapital hc, ih hl, List.singleton_append]

/-- A text in lower case stays as it is. -/
@[simp] theorem lower_lower (s : String) : lower (lower s) = lower s := by
  have hstays : lowerAfter [] (lower s).toList = (lower s).toList :=
    lowerAfter_of_not_isCapital (fun c hc => by
      rw [lower, String.toList_ofList] at hc
      exact not_isCapital_of_mem_lowerAfter hc) []
  rw [lower, hstays, String.ofList_toList]

/-! ### The case of ASCII letters -/

/-- Outside of the ASCII capitals nothing changes. -/
theorem toLower_of_not_capital (h : ¬ (0x41 ≤ c.toNat ∧ c.toNat ≤ 0x5A)) : c.toLower = c :=
  dif_neg h

theorem toLower_of_not_ascii (h : 0x80 ≤ c.toNat) : c.toLower = c :=
  toLower_of_not_capital (by omega)

/-- What holds of the ASCII letters, and where nothing changes, holds everywhere. -/
theorem toLower_induction {P : Char → Char → Prop}
    (hletter : ∀ n < 26, P (Char.ofNat (0x41 + n)) (Char.ofNat (0x61 + n))) (hrefl : ∀ c, P c c)
    (c : Char) : P c c.toLower := by
  have hlower : ∀ n < 26, (Char.ofNat (0x41 + n)).toLower = Char.ofNat (0x61 + n) := by
    decide +kernel
  by_cases h : 0x41 ≤ c.toNat ∧ c.toNat ≤ 0x5A
  · obtain ⟨n, hn⟩ := Nat.exists_eq_add_of_le h.1
    have hlt : n < 26 := by omega
    rw [← Char.ofNat_toNat c, hn, hlower n hlt]
    exact hletter n hlt
  · rw [toLower_of_not_capital h]
    exact hrefl c

/-- Whether a character has case does not depend on which case it has. -/
theorem isCased_toLower (c : Char) : isCased c.toLower = isCased c :=
  toLower_induction (P := fun c d => isCased d = isCased c) (by decide +kernel) (fun _ => rfl) c

theorem isCaseIgnorable_toLower (c : Char) : isCaseIgnorable c.toLower = isCaseIgnorable c :=
  toLower_induction (P := fun c d => isCaseIgnorable d = isCaseIgnorable c) (by decide +kernel)
    (fun _ => rfl) c

theorem meetsCased_map_toLower (l : List Char) :
    meetsCased (l.map Char.toLower) = meetsCased l := by
  induction l with
  | nil => rfl
  | cons c l ih =>
    unfold meetsCased at ih ⊢
    rw [List.map_cons, List.dropWhile_cons, List.dropWhile_cons, isCaseIgnorable_toLower]
    split
    · exact ih
    · simp [isCased_toLower]

/-- The case of ASCII letters does not matter to the lower case of a character, be they the
character itself or around it. -/
theorem lowerBetween_map_toLower (before : List Char) (c : Char) (after : List Char) :
    lowerBetween (before.map Char.toLower) c.toLower (after.map Char.toLower) =
      lowerBetween before c after := by
  rcases Nat.lt_or_ge c.toNat 0x80 with h | h
  · -- the lower case of an ASCII letter is one, and is in lower case
    have hlower : ∀ n < 0x80, (Char.ofNat n).toLower.toNat < 0x80 ∧
        (Char.ofNat n).toLower.toLower = (Char.ofNat n).toLower := by decide +kernel
    have hc := hlower c.toNat h
    rw [Char.ofNat_toNat] at hc
    rw [lowerBetween_of_ascii hc.1, hc.2, lowerBetween_of_ascii h]
  · simp only [toLower_of_not_ascii h, lowerBetween, meetsCased_map_toLower]

theorem lowerAfter_map_toLower (before l : List Char) :
    lowerAfter (before.map Char.toLower) (l.map Char.toLower) = lowerAfter before l := by
  induction l generalizing before with
  | nil => rfl
  | cons c l ih =>
    rw [List.map_cons, lowerAfter, lowerAfter, lowerBetween_map_toLower, ← List.map_cons, ih]

theorem sameIgnoringAsciiCase_iff :
    sameIgnoringAsciiCase s t = true ↔ s.toList.map Char.toLower = t.toList.map Char.toLower :=
  beq_iff_eq

/-- Texts that differ only in the case of ASCII letters have the same lower case. -/
theorem lower_eq_of_sameIgnoringAsciiCase (h : sameIgnoringAsciiCase s t = true) :
    lower s = lower t := by
  have hlower : ∀ s : String, lower s = String.ofList (lowerAfter [] (s.toList.map Char.toLower)) :=
    fun s => congrArg String.ofList (lowerAfter_map_toLower [] s.toList).symm
  rw [hlower s, hlower t, sameIgnoringAsciiCase_iff.mp h]

/-- The text has no characters beyond ASCII. -/
def IsAscii (s : String) : Prop := ∀ c ∈ s.toList, c.toNat < 0x80

instance : DecidablePred IsAscii := fun s =>
  List.decidableBAll (fun c : Char => c.toNat < 0x80) s.toList

theorem lowerAfter_of_ascii (h : ∀ c ∈ l, c.toNat < 0x80) (before : List Char) :
    lowerAfter before l = l.map Char.toLower := by
  induction l generalizing before with
  | nil => rfl
  | cons c l ih =>
    obtain ⟨hc, hl⟩ := List.forall_mem_cons.mp h
    rw [lowerAfter, lowerBetween_of_ascii hc, ih hl, List.map_cons, List.singleton_append]

/-- Texts in ASCII with the same lower case differ only in the case of letters. -/
theorem sameIgnoringAsciiCase_of_lower_eq (hs : IsAscii s) (ht : IsAscii t)
    (h : lower s = lower t) : sameIgnoringAsciiCase s t = true := by
  rw [sameIgnoringAsciiCase_iff, ← lowerAfter_of_ascii hs [], ← lowerAfter_of_ascii ht []]
  exact String.ofList_injective h

end QueryAssist.Text
