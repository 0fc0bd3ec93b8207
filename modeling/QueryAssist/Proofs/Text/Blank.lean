import Mathlib.Data.List.DropRight
import QueryAssist.Text.Blank

/-!
# Trimming

Trimming a text removes blanks at its ends and nothing else, so blanks added there make no
difference to it.

## Main results

* `exists_eq_trimEnd_append` — what trimming the end removes is blank
* `trim_append_of_blank`, `trim_trimEnd` — trimming does not see blanks at the ends
* `trim_eq_nil_iff` — trimming leaves nothing exactly of a blank text
* `leadingBlanks_append_of_trim_ne_nil` — a text that is not blank keeps its first blanks when
  something is added to it
-/

namespace QueryAssist.Text

variable {s t b : List Char} {c : Char}

/-- Every character of the text is a blank. -/
def IsBlankText (s : List Char) : Prop := ∀ c ∈ s, isBlank c = true

-- the characters of the text are gone through, not all characters
instance : DecidablePred IsBlankText := fun s =>
  List.decidableBAll (fun c => isBlank c = true) s

@[simp] theorem isBlankText_nil : IsBlankText [] := by simp [IsBlankText]

@[simp] theorem isBlankText_cons : IsBlankText (c :: s) ↔ isBlank c = true ∧ IsBlankText s := by
  simp [IsBlankText]

theorem isBlankText_append : IsBlankText (s ++ t) ↔ IsBlankText s ∧ IsBlankText t := by
  simp [IsBlankText, or_imp, forall_and]

theorem isBlankText_leadingBlanks (s : List Char) : IsBlankText (leadingBlanks s) :=
  fun _ hc => List.mem_takeWhile_imp hc

theorem IsBlankText.notMem (h : IsBlankText s) (hc : isBlank c = false) : c ∉ s :=
  fun hmem => Bool.false_ne_true (hc.symm.trans (h c hmem))

/-! ### Blanks and other characters -/

/-- A blank differs from every character that is none. -/
theorem ne_of_isBlank {c' : Char} (hc : isBlank c = true) (hc' : isBlank c' = false) : c ≠ c' := by
  rintro rfl
  rw [hc] at hc'
  cases hc'

@[simp] theorem isBlank_bar : isBlank '|' = false := by decide

@[simp] theorem isBlank_slash : isBlank '/' = false := by decide

/-! ### The end of a text -/

theorem trimEnd_eq_rdropWhile (s : List Char) : trimEnd s = s.rdropWhile isBlank := rfl

/-- Trimming the end of a text removes blanks. -/
theorem exists_eq_trimEnd_append (s : List Char) : ∃ b, IsBlankText b ∧ s = trimEnd s ++ b :=
  ⟨s.rtakeWhile isBlank, fun _ hc => List.mem_rtakeWhile_imp hc,
    List.rdropWhile_append_rtakeWhile.symm⟩

theorem trimEnd_append_of_blank (hb : IsBlankText b) : trimEnd (s ++ b) = trimEnd s := by
  have hreverse : ∀ c ∈ b.reverse, isBlank c = true := fun c hc => hb c (List.mem_reverse.mp hc)
  rw [trimEnd, List.reverse_append, List.dropWhile_append_of_pos hreverse, trimEnd]

@[simp] theorem trimEnd_trimEnd (s : List Char) : trimEnd (trimEnd s) = trimEnd s :=
  List.rdropWhile_idempotent isBlank s

theorem trimEnd_eq_nil_iff : trimEnd s = [] ↔ IsBlankText s :=
  List.rdropWhile_eq_nil_iff

theorem trimEnd_isPrefix (s : List Char) : trimEnd s <+: s := List.rdropWhile_prefix isBlank s

/-- What a text begins with is kept, unless it ends in blanks itself. -/
theorem isPrefix_trimEnd (h : t <+: s) (ht : trimEnd t = t) : t <+: trimEnd s := by
  obtain ⟨r, rfl⟩ := h
  obtain ⟨b, hb, hsplit⟩ := exists_eq_trimEnd_append (t ++ r)
  rcases List.append_eq_append_iff.mp hsplit with ⟨x, hx, -⟩ | ⟨x, hx, hbx⟩
  · exact ⟨x, hx.symm⟩
  · have hblank : IsBlankText x := (isBlankText_append.mp (hbx ▸ hb)).1
    have hkept : t = trimEnd (t ++ r) := by
      rw [← ht]
      conv_lhs => rw [hx, trimEnd_append_of_blank hblank, trimEnd_trimEnd]
      rw [ht]
    exact ⟨[], by rw [List.append_nil, ← hkept]⟩

/-- A trimmed text does not end in a blank. -/
theorem getLast?_trimEnd_ne_some (hc : isBlank c = true) : (trimEnd s).getLast? ≠ some c := by
  intro hlast
  have hne : s.rdropWhile isBlank ≠ [] := by
    rintro hnil
    rw [trimEnd_eq_rdropWhile, hnil] at hlast
    cases hlast
  rw [trimEnd_eq_rdropWhile, List.getLast?_eq_some_getLast hne, Option.some.injEq] at hlast
  exact List.rdropWhile_last_not isBlank s hne (hlast ▸ hc)

/-! ### Both ends of a text -/

theorem trimStart_append_of_blank (hb : IsBlankText b) : trimStart (b ++ s) = trimStart s :=
  List.dropWhile_append_of_pos hb

theorem trimStart_append_of_ne_nil (h : trimStart s ≠ []) :
    trimStart (s ++ t) = trimStart s ++ t := by
  have hne : (s.dropWhile isBlank).isEmpty = false := by simpa [trimStart] using h
  rw [trimStart, List.dropWhile_append, hne, if_neg Bool.false_ne_true, trimStart]

theorem trimStart_eq_nil_iff : trimStart s = [] ↔ IsBlankText s := List.dropWhile_eq_nil_iff

/-- A text is blank exactly if trimming leaves nothing of it. -/
theorem trim_eq_nil_iff : trim s = [] ↔ IsBlankText s := by
  constructor
  · intro h
    rw [trim, trimEnd_eq_nil_iff] at h
    rw [← leadingBlanks_append_trimStart s]
    exact isBlankText_append.mpr ⟨isBlankText_leadingBlanks s, h⟩
  · intro h
    rw [trim, trimStart_eq_nil_iff.mpr h]
    rfl

theorem trim_append_of_blank (hb : IsBlankText b) : trim (b ++ s) = trim s := by
  rw [trim, trimStart_append_of_blank hb, trim]

/-- Trimming a text does not see blanks at its end. -/
theorem trim_append_blank (hb : IsBlankText b) : trim (s ++ b) = trim s := by
  by_cases h : trimStart s = []
  · have hs : IsBlankText s := trimStart_eq_nil_iff.mp h
    rw [trim_eq_nil_iff.mpr hs, trim_eq_nil_iff.mpr (isBlankText_append.mpr ⟨hs, hb⟩)]
  · rw [trim, trimStart_append_of_ne_nil h, trimEnd_append_of_blank hb, trim]

@[simp] theorem trim_trimEnd (s : List Char) : trim (trimEnd s) = trim s := by
  obtain ⟨b, hb, hs⟩ := exists_eq_trimEnd_append s
  conv_rhs => rw [hs, trim_append_blank hb]

/-- A text is its trimmed form with blanks on both sides. -/
theorem exists_eq_append_trim_append (s : List Char) :
    ∃ a b, IsBlankText a ∧ IsBlankText b ∧ s = a ++ trim s ++ b := by
  obtain ⟨b, hb, hs⟩ := exists_eq_trimEnd_append (trimStart s)
  refine ⟨leadingBlanks s, b, isBlankText_leadingBlanks s, hb, ?_⟩
  rw [List.append_assoc, trim, ← hs, leadingBlanks_append_trimStart]

@[simp] theorem trim_trim (s : List Char) : trim (trim s) = trim s := by
  obtain ⟨a, b, ha, hb, hs⟩ := exists_eq_append_trim_append s
  conv_rhs => rw [hs, trim_append_blank hb, trim_append_of_blank ha]

/-- A text that is not blank keeps the blanks it begins with when something is added at its end. -/
theorem leadingBlanks_append_of_not_blank (h : ¬ IsBlankText s) :
    leadingBlanks (s ++ t) = leadingBlanks s := by
  obtain ⟨c, hc, hblank⟩ : ∃ c ∈ s, ¬ isBlank c = true := by
    simpa [IsBlankText] using h
  have hlt : (s.takeWhile isBlank).length ≠ s.length := by
    intro heq
    exact hblank (List.takeWhile_eq_self_iff.mp (List.takeWhile_prefix _ |>.eq_of_length heq) c hc)
  rw [leadingBlanks, List.takeWhile_append, if_neg hlt, leadingBlanks]

theorem leadingBlanks_trimEnd (h : ¬ IsBlankText s) :
    leadingBlanks (trimEnd s) = leadingBlanks s := by
  obtain ⟨b, hb, hs⟩ := exists_eq_trimEnd_append s
  have htrim : ¬ IsBlankText (trimEnd s) := fun hblank =>
    h (hs ▸ isBlankText_append.mpr ⟨hblank, hb⟩)
  conv_rhs => rw [hs, leadingBlanks_append_of_not_blank htrim]

end QueryAssist.Text
