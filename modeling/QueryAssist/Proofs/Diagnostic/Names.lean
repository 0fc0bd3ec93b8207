import Mathlib.Data.List.Basic
import QueryAssist.Diagnostic.Scan
import QueryAssist.Proofs.Pattern.Search
import QueryAssist.Proofs.Text.Blank
import QueryAssist.Proofs.Text.Word

/-!
# The names that are looked up in a line

The patterns of the scan find a name at the beginning of a line and the words behind its pipes. Both
are described here by recursion on the line, without a search.

## Main definitions

* `Diagnostic.statementName?` — the name that a line begins with
* `Diagnostic.pipedWord?` — the word that follows a pipe
* `Diagnostic.pipedWords` — the words behind the pipes of a line, with their columns

## Main results

* `group?_find?_statementStartPattern` — the first pattern finds the name at the beginning
* `filterMap_group?_findAll_pipedWordPattern` — the second one finds the words behind the pipes
-/

namespace QueryAssist.Diagnostic

open Text Context Pattern

variable {c : Char} {a b rest line w : List Char} {s : Place} {n : Nat}

/-! ### Classes of characters -/

theorem isIdentifierStart_of_isBlank (h : isBlank c = true) : isIdentifierStart c = false := by
  rw [← Bool.not_eq_true]
  intro hstart
  have hletter : ((65 ≤ c.toNat ∧ c.toNat ≤ 90) ∨ (97 ≤ c.toNat ∧ c.toNat ≤ 122)) ∨ c = '_' := by
    unfold isIdentifierStart Char.isAlpha Char.isUpper Char.isLower at hstart
    simpa [UInt32.le_iff_toNat_le, ← Char.toNat_val] using hstart
  have hblank := toNat_of_isBlank h
  rcases hletter with hletter | rfl
  · omega
  · exact absurd h (by decide)

theorem isHyphenated_of_isBlank (h : isBlank c = true) : isHyphenated c = false := by
  have hhyphen : c ≠ '-' := ne_of_isBlank h (by decide)
  simp [isHyphenated, isWord_of_isBlank h, hhyphen]

theorem isWord_bar : isWord '|' = false := by decide +kernel

theorem isHyphenated_bar : isHyphenated '|' = false := by decide +kernel

/-! ### The end of a name -/

/-- Whether a name can end before the rest of a line: there a blank or a pipe stands, or nothing. -/
def endsName (rest : List Char) : Bool := rest.head?.all fun c => isBlank c || c == '|'

@[simp] theorem endsName_bar (rest : List Char) : endsName ('|' :: rest) = true := rfl

theorem endsName_of_blank (h : IsBlankText b) : endsName b = true := by
  cases b with
  | nil => rfl
  | cons c b => simp [endsName, (isBlankText_cons.mp h).1]

theorem endsName_blank_append (h : IsBlankText b) (hrest : endsName rest = true) :
    endsName (b ++ rest) = true := by
  cases b with
  | nil => exact hrest
  | cons c b => simp [endsName, (isBlankText_cons.mp h).1]

/-- No character that a name can end before belongs to a class without blanks and pipes. -/
theorem takeWhile_append_of_endsName {p : Char → Bool}
    (hblank : ∀ c, isBlank c = true → p c = false) (hbar : p '|' = false)
    (h : endsName rest = true) (a : List Char) :
    (a ++ rest).takeWhile p = a.takeWhile p ∧ (a ++ rest).dropWhile p = a.dropWhile p ++ rest := by
  induction a with
  | nil =>
    cases rest with
    | nil => exact ⟨rfl, rfl⟩
    | cons c rest =>
      -- the first character behind the name is a blank or a pipe
      have hc : p c = false := by
        rcases Bool.or_eq_true_iff.mp h with hc | hc
        · exact hblank c hc
        · rw [beq_iff_eq.mp hc, hbar]
      simp [hc]
  | cons c a ih =>
    cases hc : p c with
    | true => simp [hc, ih.1, ih.2]
    | false => simp [hc]

/-! ### The beginning of a line -/

/-- The name that a line begins with, if there is one. -/
def statementName? : List Char → Option (List Char)
  | [] => none
  | c :: rest =>
    if isIdentifierStart c && endsName (rest.dropWhile isWord) then
      some (c :: rest.takeWhile isWord)
    else none

/-- No name begins with what ends one. -/
theorem statementName?_of_endsName (h : endsName line = true) : statementName? line = none := by
  cases line with
  | nil => rfl
  | cons c rest =>
    have hc : isIdentifierStart c = false := by
      rcases Bool.or_eq_true_iff.mp h with hc | hc
      · exact isIdentifierStart_of_isBlank hc
      · rw [beq_iff_eq.mp hc]
        decide
    simp [statementName?, hc]

/-- What follows the end of a name does not matter. -/
theorem statementName?_append (h : endsName rest = true) (a : List Char) :
    statementName? (a ++ rest) = statementName? a := by
  cases a with
  | nil => exact statementName?_of_endsName h
  | cons c a =>
    obtain ⟨htake, hdrop⟩ :=
      takeWhile_append_of_endsName (fun _ => isWord_of_isBlank) isWord_bar h a
    have hend : endsName (a.dropWhile isWord ++ rest) = endsName (a.dropWhile isWord) := by
      cases a.dropWhile isWord with
      | nil => exact h
      | cons c' a' => rfl
    rw [List.cons_append, statementName?, htake, hdrop, hend, statementName?]

theorem bar_notMem_of_statementName? (h : statementName? line = some w) : '|' ∉ w := by
  cases line with
  | nil => cases h
  | cons c rest =>
    rw [statementName?] at h
    split at h
    · rename_i hname
      cases h
      intro hmem
      rcases List.mem_cons.mp hmem with rfl | hmem
      · exact absurd (Bool.and_eq_true_iff.mp hname).1 (by decide)
      · have hbar := List.mem_takeWhile_imp hmem
        rw [isWord_bar] at hbar
        cases hbar
    · cases h

/-- The name that a line begins with stands in its first columns. -/
theorem statementName?_isPrefix (h : statementName? line = some w) : w <+: line := by
  cases line with
  | nil => cases h
  | cons c rest =>
    rw [statementName?] at h
    split at h
    · cases h
      exact List.prefix_cons_iff.mpr (Or.inr ⟨_, rfl, List.takeWhile_prefix _⟩)
    · cases h

/-! ### The pattern for the beginning of a line -/

/-- What may stand behind a name is looked at without being remembered. -/
theorem head?_places_endOfName (s : Place) :
    ((choice (.one isBlank) [.char '|', .lineEnd]).places s).head?.map (·.groups) =
      if endsName s.after then some s.groups else none := by
  cases hafter : s.after with
  | nil => simp [choice, places, Pattern.char, hafter, endsName]
  | cons c rest =>
    cases hc : isBlank c with
    | true => simp [choice, places, Pattern.char, hafter, endsName, hc, Place.step]
    | false =>
      by_cases hbar : c = '|'
      · subst hbar
        simp [choice, places, Pattern.char, hafter, endsName, hc, Place.step]
      · simp [choice, places, Pattern.char, hafter, endsName, hc, hbar]

/-- Behind less than a whole word nothing fits that ends a name. -/
theorem places_endOfName_eq_nil (h : s.after = c :: rest) (hc : isWord c = true) :
    (choice (.one isBlank) [.char '|', .lineEnd]).places s = [] := by
  have hblank : isBlank c = false := by
    rw [← Bool.not_eq_true]
    intro hblank
    rw [isWord_of_isBlank hblank] at hc
    cases hc
  have hbar : c ≠ '|' := by
    rintro rfl
    rw [isWord_bar] at hc
    cases hc
  simp [choice, places, Pattern.char, h, hblank, hbar]

/-- The first pattern finds the name at the beginning of a line. -/
theorem group?_find?_statementStartPattern (line : List Char) :
    (statementStartPattern.find? line).bind (·.group? 1) =
      (statementName? line).map fun w => ⟨0, w.length⟩ := by
  -- the pattern is anchored: away from the beginning of the line nothing matches
  have hplaces : ∀ s : Place, statementStartPattern.places s =
      if s.before.isEmpty then
        ((namedRun 1 isIdentifierStart isWord).places s).flatMap
          (choice (.one isBlank) [.char '|', .lineEnd]).places
      else [] := by
    intro s
    cases hs : s.before.isEmpty with
    | true => simp [statementStartPattern, Pattern.sequence, places, hs, namedRun, identifier]
    | false => simp [statementStartPattern, Pattern.sequence, places, hs]
  have hlater : ∀ s : Place, s.before ≠ [] → statementStartPattern.matchAt? s = none := by
    intro s hs
    rw [matchAt?, hplaces, if_neg (by simpa using hs)]
    rfl
  have hfirst : statementStartPattern.places (.first line) =
      ((namedRun 1 isIdentifierStart isWord).places (.first line)).flatMap
        (choice (.one isBlank) [.char '|', .lineEnd]).places := (hplaces _).trans (if_pos rfl)
  rw [find?, findFrom?_eq_matchAt? hlater, group?_matchAt? rfl, hfirst]
  cases line with
  | nil => rfl
  | cons c rest =>
    cases hc : isIdentifierStart c with
    | false =>
      rw [places_namedRun_eq_nil (by simp [Place.first, hc])]
      simp [statementName?, hc]
    | true =>
      -- behind less than the whole name a word character stands, which ends no name
      have hshorter : ∀ k < runLength isWord rest,
          (choice (.one isBlank) [.char '|', .lineEnd]).places
            ((Place.first (c :: rest)).afterNamedRun 1 k) = [] := by
        intro k hk
        obtain ⟨c', rest', hdrop, hc'⟩ := exists_drop_eq_cons_of_lt_runLength hk
        exact places_endOfName_eq_nil hdrop hc'
      rw [places_namedRun rfl hc, List.flatMap_map, flatMap_reverse_range hshorter,
        head?_places_endOfName, statementName?, hc, Bool.true_and]
      have hafter : ((Place.first (c :: rest)).afterNamedRun 1 (runLength isWord rest)).after =
          rest.dropWhile isWord := drop_runLength isWord rest
      rw [hafter]
      cases endsName (rest.dropWhile isWord) with
      | false => rfl
      | true => simp [Place.afterNamedRun, Place.first, runLength]

/-! ### The words behind pipes -/

/-- The word that follows a pipe, blanks before it left out, if there is one. -/
def pipedWord? (rest : List Char) : Option (List Char) :=
  match trimStart rest with
  | [] => none
  | c :: rest => if isIdentifierStart c then some (c :: rest.takeWhile isHyphenated) else none

/-- The words behind the pipes of a line that begins in a column, with their columns. -/
def pipedWords : (column : Nat) → List Char → List (Nat × List Char)
  | _, [] => []
  | column, c :: rest =>
    if c = '|' then
      ((pipedWord? rest).map fun w => (column + 1 + (leadingBlanks rest).length, w)).toList ++
        pipedWords (column + 1) rest
    else pipedWords (column + 1) rest

theorem pipedWord?_of_blank (h : IsBlankText b) : pipedWord? b = none := by
  rw [pipedWord?, trimStart_eq_nil_iff.mpr h]

theorem pipedWord?_blank_append (h : IsBlankText b) (rest : List Char) :
    pipedWord? (b ++ rest) = pipedWord? rest := by
  rw [pipedWord?, trimStart_append_of_blank h, pipedWord?]

/-- What follows the end of a word does not matter, unless it is itself taken for the word. -/
theorem pipedWord?_append (h : endsName rest = true) (hrest : pipedWord? rest = none)
    (a : List Char) : pipedWord? (a ++ rest) = pipedWord? a := by
  -- after nothing but blanks the word would have to begin in what follows
  by_cases ha : IsBlankText a
  · rw [pipedWord?_blank_append ha, hrest, pipedWord?_of_blank ha]
  · have hne : trimStart a ≠ [] := mt trimStart_eq_nil_iff.mp ha
    rw [pipedWord?, trimStart_append_of_ne_nil hne, pipedWord?]
    cases htrim : trimStart a with
    | nil => exact (hne htrim).elim
    | cons c a =>
      have htake :=
        (takeWhile_append_of_endsName (fun _ => isHyphenated_of_isBlank) isHyphenated_bar h a).1
      rw [List.cons_append]
      simp only [htake]

/-- A word stands right behind the blanks that follow the pipe. -/
theorem exists_eq_append_of_pipedWord? (h : pipedWord? rest = some w) :
    ∃ c r, trimStart rest = c :: r ∧ isIdentifierStart c = true ∧
      w = c :: r.takeWhile isHyphenated := by
  rw [pipedWord?] at h
  split at h
  · cases h
  · rename_i c r htrim
    split at h
    · rename_i hc
      cases h
      exact ⟨c, r, htrim, hc, rfl⟩
    · cases h

theorem bar_notMem_of_pipedWord? (h : pipedWord? rest = some w) : '|' ∉ w := by
  obtain ⟨c, r, -, hc, rfl⟩ := exists_eq_append_of_pipedWord? h
  intro hmem
  rcases List.mem_cons.mp hmem with rfl | hmem
  · exact absurd hc (by decide)
  · have hbar := List.mem_takeWhile_imp hmem
    rw [isHyphenated_bar] at hbar
    cases hbar

/-- Blanks, the word and the rest of the line follow a pipe. -/
theorem eq_append_of_pipedWord? (h : pipedWord? rest = some w) :
    rest = leadingBlanks rest ++ w ++ rest.drop ((leadingBlanks rest).length + w.length) := by
  obtain ⟨c, r, htrim, -, rfl⟩ := exists_eq_append_of_pipedWord? h
  have hrest : rest = leadingBlanks rest ++ (c :: r.takeWhile isHyphenated) ++
      r.dropWhile isHyphenated := by
    rw [List.append_assoc, List.cons_append, List.takeWhile_append_dropWhile, ← htrim,
      leadingBlanks_append_trimStart]
  have hdrop := congrArg (List.drop ((leadingBlanks rest).length +
    (c :: r.takeWhile isHyphenated).length)) hrest
  rw [← List.length_append, List.drop_left] at hdrop
  rw [← List.length_append, hdrop]
  exact hrest

theorem pipedWords_bar (n : Nat) (rest : List Char) :
    pipedWords n ('|' :: rest) =
      ((pipedWord? rest).map fun w => (n + 1 + (leadingBlanks rest).length, w)).toList ++
        pipedWords (n + 1) rest := if_pos rfl

theorem pipedWords_cons_of_ne (h : c ≠ '|') (n : Nat) (rest : List Char) :
    pipedWords n (c :: rest) = pipedWords (n + 1) rest := if_neg h

theorem pipedWords_append_of_bar_notMem (h : '|' ∉ a) (n : Nat) (b : List Char) :
    pipedWords n (a ++ b) = pipedWords (n + a.length) b := by
  induction a generalizing n with
  | nil => rfl
  | cons c a ih =>
    rw [List.mem_cons, not_or] at h
    rw [List.cons_append, pipedWords_cons_of_ne (Ne.symm h.1), ih h.2, List.length_cons]
    congr 1
    omega

/-- A line can be searched in two pieces when the second one neither continues a word nor begins
with one. -/
theorem pipedWords_append (h : endsName rest = true) (hword : pipedWord? rest = none) (n : Nat)
    (a : List Char) :
    pipedWords n (a ++ rest) = pipedWords n a ++ pipedWords (n + a.length) rest := by
  induction a generalizing n with
  | nil => rfl
  | cons c a ih =>
    have hlength : n + 1 + a.length = n + (c :: a).length := by
      rw [List.length_cons]
      omega
    by_cases hc : c = '|'
    · subst hc
      have hblanks : pipedWord? a ≠ none → leadingBlanks (a ++ rest) = leadingBlanks a := by
        intro hne
        refine leadingBlanks_append_of_not_blank fun hblank => hne (pipedWord?_of_blank hblank)
      rw [List.cons_append, pipedWords_bar, pipedWord?_append h hword, ih, hlength, pipedWords_bar,
        List.append_assoc]
      cases hw : pipedWord? a with
      | none => rfl
      | some w => rw [hblanks (by simp [hw])]
    · rw [List.cons_append, pipedWords_cons_of_ne hc, ih, hlength, pipedWords_cons_of_ne hc]

theorem pipedWords_of_blank (h : IsBlankText b) (n : Nat) : pipedWords n b = [] := by
  have hb := pipedWords_append_of_bar_notMem (h.notMem isBlank_bar) n []
  rwa [List.append_nil] at hb

theorem pipedWords_append_blank (h : IsBlankText b) (n : Nat) (a : List Char) :
    pipedWords n (a ++ b) = pipedWords n a := by
  rw [pipedWords_append (endsName_of_blank h) (pipedWord?_of_blank h), pipedWords_of_blank h,
    List.append_nil]

/-- The search for words goes on behind the word that was found last. -/
theorem pipedWords_bar_of_pipedWord? (h : pipedWord? rest = some w) (n : Nat) :
    pipedWords n ('|' :: rest) =
      (n + 1 + (leadingBlanks rest).length, w) ::
        pipedWords (n + 1 + (leadingBlanks rest).length + w.length)
          (rest.drop ((leadingBlanks rest).length + w.length)) := by
  -- neither the blanks nor the word have a pipe, so the next word is behind them
  have hbar : '|' ∉ leadingBlanks rest ++ w := by
    rw [List.mem_append, not_or]
    exact ⟨(isBlankText_leadingBlanks rest).notMem isBlank_bar, bar_notMem_of_pipedWord? h⟩
  have htail := pipedWords_append_of_bar_notMem hbar (n + 1)
    (rest.drop ((leadingBlanks rest).length + w.length))
  rw [← eq_append_of_pipedWord? h, List.length_append, ← Nat.add_assoc] at htail
  rw [pipedWords_bar, h, htail]
  rfl

/-- Every word of a line follows a pipe of the line, with blanks between. -/
theorem exists_bar_of_mem_pipedWords {column : Nat} (h : (column, w) ∈ pipedWords n line) :
    ∃ a rest, line = a ++ '|' :: rest ∧ pipedWord? rest = some w ∧
      column = n + a.length + 1 + (leadingBlanks rest).length := by
  induction line generalizing n with
  | nil => cases h
  | cons c line ih =>
    have hlater : (column, w) ∈ pipedWords (n + 1) line →
        ∃ a rest, c :: line = a ++ '|' :: rest ∧ pipedWord? rest = some w ∧
          column = n + a.length + 1 + (leadingBlanks rest).length := by
      intro hmem
      obtain ⟨a, rest, hline, hword, hcolumn⟩ := ih hmem
      refine ⟨c :: a, rest, congrArg (c :: ·) hline, hword, ?_⟩
      rw [hcolumn, List.length_cons]
      omega
    by_cases hc : c = '|'
    · subst hc
      rw [pipedWords_bar, List.mem_append, Option.mem_toList,
        Option.map_eq_some_iff] at h
      rcases h with ⟨w', hw', heq⟩ | h
      · obtain ⟨rfl, rfl⟩ := Prod.mk.inj heq
        exact ⟨[], line, rfl, hw', rfl⟩
      · exact hlater h
    · rw [pipedWords_cons_of_ne hc] at h
      exact hlater h

/-- Every word of a line stands at its column. -/
theorem exists_eq_append_of_mem_pipedWords {column : Nat} (h : (column, w) ∈ pipedWords n line) :
    ∃ a b, line = a ++ w ++ b ∧ column = n + a.length := by
  obtain ⟨a, rest, rfl, hword, rfl⟩ := exists_bar_of_mem_pipedWords h
  refine ⟨a ++ '|' :: leadingBlanks rest,
    rest.drop ((leadingBlanks rest).length + w.length), ?_, ?_⟩
  · conv_lhs => rw [eq_append_of_pipedWord? hword]
    simp only [List.append_assoc, List.cons_append]
  · rw [List.length_append, List.length_cons]
    omega

/-- Each word of a line begins behind the words before it. -/
theorem pairwise_pipedWords (n : Nat) (line : List Char) :
    (pipedWords n line).Pairwise fun w w' => w.1 + w.2.length ≤ w'.1 := by
  induction line generalizing n with
  | nil => exact List.Pairwise.nil
  | cons c rest ih =>
    by_cases hc : c = '|'
    · subst hc
      cases hw : pipedWord? rest with
      | none =>
        rw [pipedWords_bar, hw]
        exact ih (n + 1)
      | some w =>
        -- the words that follow are found behind the end of this one
        have htail := ih (n + 1)
        have hbar := pipedWords_bar_of_pipedWord? hw n
        have hbar' := pipedWords_bar n rest
        rw [hw, hbar] at hbar'
        obtain ⟨-, htails⟩ := List.cons.inj hbar'
        rw [hbar]
        refine List.pairwise_cons.mpr ⟨fun w' hmem => ?_, htails ▸ htail⟩
        obtain ⟨x, y, -, hcolumn⟩ := exists_eq_append_of_mem_pipedWords hmem
        rw [hcolumn]
        exact Nat.le_add_right _ _
    · rw [pipedWords_cons_of_ne hc]
      exact ih (n + 1)

/-! ### The pattern for words behind pipes -/

theorem matchAt?_pipedWordPattern_of_ne (h : s.after = rest) (hbar : rest.head? ≠ some '|') :
    pipedWordPattern.matchAt? s = none := by
  cases rest with
  | nil => simp [matchAt?, pipedWordPattern, Pattern.sequence, places, Pattern.char, h]
  | cons c rest =>
    have hc : ¬ c = '|' := by simpa using hbar
    simp [matchAt?, pipedWordPattern, Pattern.sequence, places, Pattern.char, h, hc]

/-- Behind less than all the blanks that follow a pipe no word begins. -/
theorem places_pipedWordPattern (h : s.after = '|' :: rest) :
    pipedWordPattern.places s =
      (namedRun 1 isIdentifierStart isHyphenated).places
        ((s.skip 1).skip (runLength isBlank rest)) := by
  have hbar : (Pattern.char '|').places s = [s.skip 1] := by
    simp [Pattern.char, places, h, Place.step_eq_skip h]
  have hafter : (s.skip 1).after = rest := by
    rw [Place.after_skip, h]
    rfl
  have hplaces : pipedWordPattern.places s =
      ((run isBlank).places (s.skip 1)).flatMap
        (namedRun 1 isIdentifierStart isHyphenated).places := by
    change ((Pattern.char '|').places s).flatMap _ = _
    rw [hbar, List.flatMap_singleton]
    rfl
  -- giving back a blank does not help: no word begins with one
  have hshorter : ∀ k < runLength isBlank (s.skip 1).after,
      (namedRun 1 isIdentifierStart isHyphenated).places ((s.skip 1).skip k) = [] := by
    intro k hk
    obtain ⟨c, r, hdrop, hc⟩ := exists_drop_eq_cons_of_lt_runLength hk
    apply places_namedRun_eq_nil
    rw [Place.after_skip, hdrop]
    simpa using isIdentifierStart_of_isBlank hc
  rw [hplaces, flatMap_places_run hshorter, hafter]

/-- The preferred match at a pipe ends with the word that follows it. -/
theorem matchAt?_pipedWordPattern (h : s.after = '|' :: rest) :
    pipedWordPattern.matchAt? s = (pipedWord? rest).map fun w =>
      ⟨s.column, ((({ s with groups := [] } : Place).skip 1).skip
        (runLength isBlank rest)).afterNamedRun 1 (w.length - 1)⟩ := by
  have hafter : ((({ s with groups := [] } : Place).skip 1).skip (runLength isBlank rest)).after =
      trimStart rest := by
    rw [Place.after_skip, Place.after_skip, h, List.drop_one, List.tail_cons, drop_runLength,
      trimStart]
  -- the match begins without groups, at a place with the same text around it
  have hplaces : pipedWordPattern.places { s with groups := [] } = _ :=
    places_pipedWordPattern (s := { s with groups := [] }) h
  rw [matchAt?, hplaces]
  cases htrim : trimStart rest with
  | nil =>
    rw [places_namedRun_eq_nil (by rw [hafter, htrim]; rfl), pipedWord?, htrim]
    rfl
  | cons c r =>
    cases hc : isIdentifierStart c with
    | false =>
      rw [places_namedRun_eq_nil (by rw [hafter, htrim]; simpa using hc), pipedWord?, htrim]
      simp [hc]
    | true =>
      rw [places_namedRun (hafter.trans htrim) hc, List.range_succ, pipedWord?, htrim]
      simp [hc, runLength]

theorem exists_matchAt?_pipedWordPattern (h : s.after = '|' :: rest)
    (hw : pipedWord? rest = some w) :
    ∃ t : Place, pipedWordPattern.matchAt? s = some ⟨s.column, t⟩ ∧
      t.column = s.column + 1 + (leadingBlanks rest).length + w.length ∧
      t.after = rest.drop ((leadingBlanks rest).length + w.length) ∧
      t.groups.lookup 1 = some ⟨s.column + 1 + (leadingBlanks rest).length,
        s.column + 1 + (leadingBlanks rest).length + w.length⟩ := by
  have hmatch := matchAt?_pipedWordPattern h
  rw [hw, Option.map_some] at hmatch
  have hlen : w.length - 1 + 1 = w.length := by
    obtain ⟨c, r, -, -, rfl⟩ := exists_eq_append_of_pipedWord? hw
    rfl
  refine ⟨_, hmatch, ?_, ?_, ?_⟩
  · simp [Place.afterNamedRun, hlen, runLength, leadingBlanks]
  · simp [Place.afterNamedRun, Place.skip, hlen, runLength, leadingBlanks, h]
  · simp [Place.afterNamedRun, hlen, runLength, leadingBlanks]

/-- A search from a place finds the next word behind a pipe, with its columns, and ends right
behind it. -/
theorem findFrom?_pipedWordPattern (h : s.after = rest) :
    (pipedWordPattern.findFrom? rest s = none ∧ pipedWords s.column rest = []) ∨
      ∃ m column w, pipedWordPattern.findFrom? rest s = some m ∧
        m.group? 1 = some ⟨column, column + w.length⟩ ∧ m.start < m.stop.column ∧
        m.stop.after.length < rest.length ∧
        pipedWords s.column rest = (column, w) :: pipedWords m.stop.column m.stop.after := by
  induction rest generalizing s with
  | nil => exact Or.inl ⟨matchAt?_pipedWordPattern_of_ne h (by simp), rfl⟩
  | cons c rest ih =>
    have hstep : (s.step c rest).after = rest := rfl
    by_cases hc : c = '|'
    · subst hc
      cases hw : pipedWord? rest with
      | none =>
        -- a pipe that no word follows is passed over
        have hmatch : pipedWordPattern.matchAt? s = none := by
          rw [matchAt?_pipedWordPattern h, hw, Option.map_none]
        rw [findFrom?_cons_of_matchAt?_eq_none hmatch, pipedWords_bar, hw]
        rcases ih hstep with hnone | ⟨m, column, w, hfind, hgroup, hstart, hlen, hwords⟩
        · exact Or.inl hnone
        · exact Or.inr ⟨m, column, w, hfind, hgroup, hstart, by simp; omega, hwords⟩
      | some w =>
        obtain ⟨t, hmatch, hcolumn, hafter, hgroup⟩ := exists_matchAt?_pipedWordPattern h hw
        refine Or.inr ⟨_, _, _, findFrom?_of_matchAt?_eq_some hmatch, hgroup, ?_, ?_, ?_⟩
        · change s.column < t.column
          omega
        · change t.after.length < rest.length + 1
          rw [hafter, List.length_drop]
          omega
        · rw [pipedWords_bar_of_pipedWord? hw, hcolumn, hafter]
    · have hmatch := matchAt?_pipedWordPattern_of_ne h (by simpa using hc)
      rw [findFrom?_cons_of_matchAt?_eq_none hmatch, pipedWords_cons_of_ne hc]
      rcases ih hstep with hnone | ⟨m, column, w, hfind, hgroup, hstart, hlen, hwords⟩
      · exact Or.inl hnone
      · exact Or.inr ⟨m, column, w, hfind, hgroup, hstart, by simp; omega, hwords⟩

theorem filterMap_group?_findAllFrom_pipedWordPattern (h : s.after.length < n) :
    (pipedWordPattern.findAllFrom n s).filterMap (·.group? 1) =
      (pipedWords s.column s.after).map fun w => ⟨w.1, w.1 + w.2.length⟩ := by
  -- every match is longer than nothing, so the text left is a bound on the matches left
  induction n generalizing s with
  | zero => cases h
  | succ n ih =>
    rw [findAllFrom]
    rcases findFrom?_pipedWordPattern rfl with
      ⟨hfind, hwords⟩ | ⟨m, column, w, hfind, hgroup, hstart, hlen, hwords⟩
    · rw [hfind, hwords]
      rfl
    · rw [hfind, hwords]
      simp only [hstart, if_true, List.map_cons, List.filterMap_cons, hgroup]
      rw [ih (by omega)]

/-- The second pattern finds the words behind the pipes of a line. -/
theorem filterMap_group?_findAll_pipedWordPattern (line : List Char) :
    (pipedWordPattern.findAll line).filterMap (·.group? 1) =
      (pipedWords 0 line).map fun w => ⟨w.1, w.1 + w.2.length⟩ :=
  filterMap_group?_findAllFrom_pipedWordPattern (Nat.lt_succ_self _)

/-- The columns of a word in a line cover the word. -/
theorem of_span_of_mem_pipedWords {column : Nat} (h : (column, w) ∈ pipedWords 0 line) :
    Span.of ⟨column, column + w.length⟩ line = w := by
  obtain ⟨a, b, rfl, hcolumn⟩ := exists_eq_append_of_mem_pipedWords h
  obtain rfl : column = a.length := by omega
  simp [Span.of, List.append_assoc]

/-- The columns of the name at the beginning of a line cover the name. -/
theorem of_span_of_statementName? (h : statementName? line = some w) :
    Span.of ⟨0, w.length⟩ line = w := by
  obtain ⟨b, rfl⟩ := statementName?_isPrefix h
  simp [Span.of]

end QueryAssist.Diagnostic
