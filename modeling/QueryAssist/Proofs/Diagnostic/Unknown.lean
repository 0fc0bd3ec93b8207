import Mathlib.Data.List.Forall2
import QueryAssist.Proofs.Diagnostic.Flags
import QueryAssist.Proofs.Diagnostic.Lines

/-!
# The unknown names of a text

A line gives a warning for each unknown name in it, and no other warning: one for each pipe with an
unknown word behind it, and at most one for the name that begins a statement. What a word behind a
pipe is, and what begins a statement, is said here by how the line is made up, without a search.

## Main definitions

* `Diagnostic.IsPipedWord`, `Diagnostic.IsStatementName` — the names of a masked line
* `Diagnostic.IsUnknownOperator`, `Diagnostic.IsUnknownTable` — names that the catalog has not
* `Diagnostic.StandBehind` — words and the pipes that they stand behind
* `Diagnostic.remarksOn` — the remarks of one kind on one line of a text
* `Diagnostic.FlagsUnknownNames` — a line is flagged for its unknown names

## Main results

* `exists_standBehind` — the words that are found stand behind the pipes of the line
* `remarksOn_eq` — the warnings of one kind on a line depend on the line only
* `scan_flags_unknown_names` — which names are flagged
-/

namespace QueryAssist.Diagnostic

open Text Literal Context

variable {c : Catalog} {settings : Settings} {text raw line rest blanks w : List Char}
  {d : Diagnostic} {i j n : Nat} {kind : String} {ch : Char}

/-! ### Names in a line -/

/-- The text `rest` is made up of blanks, the word `w` and what cannot belong to the word. -/
def IsWordAfter (rest blanks w : List Char) : Prop :=
  ∃ later, rest = blanks ++ (w ++ later) ∧ IsBlankText blanks ∧ isName isHyphenated w = true ∧
    later.head?.all (fun c => !isHyphenated c) = true

/-- A pipe stands in column `i` of a line, and behind it and some blanks the word `w`, which begins
in column `j` and is as long as it can be. -/
def IsPipedWord (line : List Char) (i j : Nat) (w : List Char) : Prop :=
  ∃ before rest blanks, line = before ++ '|' :: rest ∧ i = before.length ∧
    IsWordAfter rest blanks w ∧ j = i + 1 + blanks.length

/-- The name `w` begins a line, and a blank, a pipe or the end of the line follows it. -/
def IsStatementName (line w : List Char) : Prop :=
  isName isWord w = true ∧ ∃ rest, line = w ++ rest ∧ endsName rest = true

/-- Words are compared with the names of operators and keywords, if there are any, and the word `w`
is none of them, case aside. -/
def IsUnknownOperator (c : Catalog) (w : List Char) : Prop :=
  (c.operators ≠ [] ∨ c.keywords ≠ []) ∧
    (∀ e ∈ c.operators, sameIgnoringAsciiCase e.name (String.ofList w) = false) ∧
      ∀ k ∈ c.keywords, sameIgnoringAsciiCase k.name (String.ofList w) = false

/-- There are tables, and the name `w` is neither found among them nor among the keywords, operators
and functions. -/
def IsUnknownTable (c : Catalog) (w : List Char) : Prop :=
  c.tables.isEmpty = false ∧ c.findTable? (String.ofList w) = none ∧
    c.findKeyword? (String.ofList w) = none ∧ c.findOperator? (String.ofList w) = none ∧
      c.findFunction? (String.ofList w) = none

theorem takeWhile_of_head?_all {p : Char → Bool} {later : List Char}
    (h : later.head?.all (fun c => !p c) = true) : later.takeWhile p = [] := by
  cases later with
  | nil => rfl
  | cons c later => exact List.takeWhile_cons_of_neg (by simpa using h)

theorem head?_all_dropWhile (p : Char → Bool) (l : List Char) :
    (l.dropWhile p).head?.all (fun c => !p c) = true := by
  have hhead := List.head?_dropWhile_not p l
  cases h : (l.dropWhile p).head? with
  | none => rfl
  | some c =>
    rw [h] at hhead
    simpa using hhead

theorem leadingBlanks_append_name (hb : IsBlankText blanks) (hw : isName isHyphenated w = true)
    (later : List Char) : leadingBlanks (blanks ++ (w ++ later)) = blanks := by
  -- the blanks end where the word begins
  have hfirst : (w ++ later).takeWhile isBlank = [] := by
    cases w with
    | nil => cases hw
    | cons c w =>
      have hc : isBlank c = false := by
        rw [← Bool.not_eq_true]
        exact fun hblank => blank_notMem_of_isName hw hblank List.mem_cons_self
      exact List.takeWhile_cons_of_neg (by simp [hc])
  rw [leadingBlanks, List.takeWhile_append_of_pos hb, hfirst, List.append_nil]

/-- The word that is found behind a pipe is the one that the line is made up with. -/
theorem isWordAfter_iff :
    IsWordAfter rest blanks w ↔ pipedWord? rest = some w ∧ blanks = leadingBlanks rest := by
  constructor
  · rintro ⟨later, rfl, hb, hw, hlater⟩
    refine ⟨?_, (leadingBlanks_append_name hb hw later).symm⟩
    have htrim : trimStart (w ++ later) = w ++ later := by
      have hne : trimStart w ≠ [] := by
        rw [trimStart_of_isName hw]
        exact ne_nil_of_isName hw
      rw [trimStart_append_of_ne_nil hne, trimStart_of_isName hw]
    rw [pipedWord?_blank_append hb, pipedWord?, htrim]
    cases w with
    | nil => cases hw
    | cons c w =>
      obtain ⟨hc, hrest⟩ := Bool.and_eq_true_iff.mp hw
      -- the word ends before the first character that cannot belong to it
      have htake : (w ++ later).takeWhile isHyphenated = w := by
        rw [List.takeWhile_append_of_pos (List.all_eq_true.mp hrest),
          takeWhile_of_head?_all hlater, List.append_nil]
      simp [hc, htake]
  · rintro ⟨hword, rfl⟩
    obtain ⟨c, r, htrim, hc, rfl⟩ := exists_eq_append_of_pipedWord? hword
    refine ⟨r.dropWhile isHyphenated, ?_, isBlankText_leadingBlanks rest, ?_,
      head?_all_dropWhile isHyphenated r⟩
    · rw [List.cons_append, List.takeWhile_append_dropWhile, ← htrim,
        leadingBlanks_append_trimStart]
    · exact Bool.and_eq_true_iff.mpr
        ⟨hc, List.all_eq_true.mpr fun c hc => List.mem_takeWhile_imp hc⟩

/-- At most one word follows a pipe. -/
theorem IsPipedWord.unique {j' : Nat} {w' : List Char} (h : IsPipedWord line i j w)
    (h' : IsPipedWord line i j' w') : j = j' ∧ w = w' := by
  obtain ⟨before, rest, blanks, rfl, rfl, hword, rfl⟩ := h
  obtain ⟨before', rest', blanks', hline, hlength, hword', rfl⟩ := h'
  -- the line is cut at the same place, and what follows decides
  obtain ⟨rfl, hrest⟩ := List.append_inj hline hlength
  obtain rfl : rest = rest' := (List.cons.inj hrest).2
  obtain ⟨hw, rfl⟩ := isWordAfter_iff.mp hword
  obtain ⟨hw', rfl⟩ := isWordAfter_iff.mp hword'
  rw [hw] at hw'
  exact ⟨rfl, Option.some.inj hw'⟩

theorem not_isPipedWord_nil : ¬ IsPipedWord [] i j w := by
  rintro ⟨before, rest, blanks, h, -⟩
  simp at h

/-- A pipe is the first character of a line or stands in the rest of it. -/
theorem isPipedWord_cons_iff :
    IsPipedWord (ch :: line) i j w ↔
      (ch = '|' ∧ i = 0 ∧ pipedWord? line = some w ∧ j = 1 + (leadingBlanks line).length) ∨
        ∃ i' j', i = i' + 1 ∧ j = j' + 1 ∧ IsPipedWord line i' j' w := by
  constructor
  · rintro ⟨before, rest, blanks, hline, rfl, hword, rfl⟩
    cases before with
    | nil =>
      obtain ⟨rfl, rfl⟩ := List.cons.inj hline
      obtain ⟨hfound, rfl⟩ := isWordAfter_iff.mp hword
      exact Or.inl ⟨rfl, rfl, hfound, by simp⟩
    | cons c before =>
      obtain ⟨rfl, rfl⟩ := List.cons.inj hline
      refine Or.inr ⟨before.length, before.length + 1 + blanks.length, rfl, ?_, before, rest,
        blanks, rfl, rfl, hword, rfl⟩
      rw [List.length_cons]
      omega
  · rintro (⟨rfl, rfl, hword, rfl⟩ | ⟨i', j', rfl, rfl, before, rest, blanks, rfl, rfl, hword, rfl⟩)
    · exact ⟨[], line, _, rfl, rfl, isWordAfter_iff.mpr ⟨hword, rfl⟩, by simp⟩
    · exact ⟨ch :: before, rest, blanks, rfl, rfl, hword, by omega⟩

/-- The words `found` with a property, whose columns are counted from `n`, stand behind the pipes
`bars` of a line, and no other pipe has such a word behind it. -/
structure StandBehind (p : List Char → Bool) (n : Nat) (line : List Char) (bars : List Nat)
    (found : List (Nat × List Char)) : Prop where
  /-- The pipes come from left to right. -/
  sorted : bars.Pairwise (· < ·)
  /-- They are the pipes with such a word behind them. -/
  mem_iff (i : Nat) : i ∈ bars ↔ ∃ j w, IsPipedWord line i j w ∧ p w = true
  /-- Each word stands behind its pipe. -/
  words : List.Forall₂
    (fun i w => ∃ j, w.1 = n + j ∧ IsPipedWord line i j w.2 ∧ p w.2 = true) bars found

namespace StandBehind

variable {p : List Char → Bool} {bars : List Nat} {found : List (Nat × List Char)}

theorem nil (p : List Char → Bool) (n : Nat) : StandBehind p n [] [] [] where
  sorted := .nil
  mem_iff i := by simp [not_isPipedWord_nil]
  words := .nil

theorem sorted_succ (h : StandBehind p n line bars found) :
    (bars.map (· + 1)).Pairwise (· < ·) :=
  List.pairwise_map.mpr (h.sorted.imp fun hlt => Nat.succ_lt_succ hlt)

/-- The pipes of the rest of a line stand one column further to the right in the line. -/
theorem mem_succ_iff (h : StandBehind p n line bars found) (i : Nat) :
    i ∈ bars.map (· + 1) ↔ ∃ i' j w, i = i' + 1 ∧ IsPipedWord line i' j w ∧ p w = true := by
  rw [List.mem_map]
  constructor
  · rintro ⟨i', hi', rfl⟩
    obtain ⟨j, w, hword, hp⟩ := (h.mem_iff i').mp hi'
    exact ⟨i', j, w, rfl, hword, hp⟩
  · rintro ⟨i', j, w, rfl, hword, hp⟩
    exact ⟨i', (h.mem_iff i').mpr ⟨j, w, hword, hp⟩, rfl⟩

theorem words_succ (h : StandBehind p (n + 1) line bars found) (ch : Char) :
    List.Forall₂ (fun i w => ∃ j, w.1 = n + j ∧ IsPipedWord (ch :: line) i j w.2 ∧ p w.2 = true)
      (bars.map (· + 1)) found := by
  refine List.forall₂_map_left_iff.mpr (h.words.imp ?_)
  rintro i w ⟨j, hcolumn, hword, hp⟩
  exact ⟨j + 1, by omega, isPipedWord_cons_iff.mpr (Or.inr ⟨i, j, rfl, rfl, hword⟩), hp⟩

/-- A pipe with such a word behind it comes first. -/
theorem bar (h : StandBehind p (n + 1) line bars found) (hword : pipedWord? line = some w)
    (hp : p w = true) :
    StandBehind p n ('|' :: line) (0 :: bars.map (· + 1))
      ((n + 1 + (leadingBlanks line).length, w) :: found) where
  sorted := by
    refine List.pairwise_cons.mpr ⟨fun i hi => ?_, h.sorted_succ⟩
    obtain ⟨i', -, rfl⟩ := List.mem_map.mp hi
    exact Nat.succ_pos i'
  mem_iff i := by
    rw [List.mem_cons, h.mem_succ_iff]
    constructor
    · rintro (rfl | ⟨i', j, w', rfl, hrest, hp'⟩)
      · exact ⟨_, w, isPipedWord_cons_iff.mpr (Or.inl ⟨rfl, rfl, hword, rfl⟩), hp⟩
      · exact ⟨j + 1, w', isPipedWord_cons_iff.mpr (Or.inr ⟨i', j, rfl, rfl, hrest⟩), hp'⟩
    · rintro ⟨j, w', hword', hp'⟩
      rcases isPipedWord_cons_iff.mp hword' with ⟨-, rfl, -, -⟩ | ⟨i', j', rfl, rfl, hrest⟩
      · exact Or.inl rfl
      · exact Or.inr ⟨i', j', w', rfl, hrest, hp'⟩
  words := by
    refine .cons ⟨1 + (leadingBlanks line).length, by omega, ?_, hp⟩ (h.words_succ '|')
    exact isPipedWord_cons_iff.mpr (Or.inl ⟨rfl, rfl, hword, rfl⟩)

/-- A character that is no such pipe is passed over. -/
theorem skip (h : StandBehind p (n + 1) line bars found)
    (hfirst : ∀ w, ch = '|' → pipedWord? line = some w → p w = false) :
    StandBehind p n (ch :: line) (bars.map (· + 1)) found where
  sorted := h.sorted_succ
  mem_iff i := by
    rw [h.mem_succ_iff]
    constructor
    · rintro ⟨i', j, w, rfl, hword, hp⟩
      exact ⟨j + 1, w, isPipedWord_cons_iff.mpr (Or.inr ⟨i', j, rfl, rfl, hword⟩), hp⟩
    · rintro ⟨j, w, hword, hp⟩
      rcases isPipedWord_cons_iff.mp hword with ⟨hbar, -, hword, -⟩ | ⟨i', j', rfl, -, hword⟩
      · rw [hfirst w hbar hword] at hp
        cases hp
      · exact ⟨i', j', w, rfl, hword, hp⟩
  words := h.words_succ ch

end StandBehind

/-- The words that are found in a line, those with a property only, stand behind its pipes, one
behind each pipe that has such a word behind it. -/
theorem exists_standBehind (p : List Char → Bool) (n : Nat) (line : List Char) :
    ∃ bars, StandBehind p n line bars ((pipedWords n line).filter fun w => p w.2) := by
  -- by induction on the line, with the columns counted from anywhere
  induction line generalizing n with
  | nil => exact ⟨[], .nil p n⟩
  | cons ch line ih =>
    obtain ⟨bars, h⟩ := ih (n + 1)
    by_cases hbar : ch = '|'
    · subst hbar
      rw [pipedWords_bar, List.filter_append]
      cases hword : pipedWord? line with
      | none => exact ⟨_, h.skip fun w _ hw => by rw [hword] at hw; cases hw⟩
      | some w =>
        cases hp : p w with
        | true =>
          have hbar := h.bar hword hp
          exact ⟨_, by simpa [hp] using hbar⟩
        | false =>
          have hfirst : ∀ w', '|' = '|' → pipedWord? line = some w' → p w' = false := by
            intro w' _ hw'
            rw [hword] at hw'
            exact Option.some.inj hw' ▸ hp
          have hskip := h.skip hfirst
          exact ⟨_, by simpa [hp] using hskip⟩
    · rw [pipedWords_cons_of_ne hbar]
      exact ⟨_, h.skip fun w hch => (hbar hch).elim⟩

/-- The name that is found at the beginning of a line is the one that the line is made up with. -/
theorem statementName?_eq_some_iff : statementName? line = some w ↔ IsStatementName line w := by
  constructor
  · intro h
    cases line with
    | nil => cases h
    | cons ch rest =>
      rw [statementName?] at h
      split at h
      · rename_i hname
        obtain ⟨hstart, hend⟩ := Bool.and_eq_true_iff.mp hname
        cases h
        refine ⟨?_, rest.dropWhile isWord, ?_, hend⟩
        · exact Bool.and_eq_true_iff.mpr
            ⟨hstart, List.all_eq_true.mpr fun c hc => List.mem_takeWhile_imp hc⟩
        · rw [List.cons_append, List.takeWhile_append_dropWhile]
      · cases h
  · rintro ⟨hname, rest, rfl, hend⟩
    rw [statementName?_append hend]
    exact statementName?_of_isName hname

/-! ### The remarks on a line -/

/-- The remarks of one kind on line `n` of a text. -/
def remarksOn (c : Catalog) (settings : Settings) (text : List Char) (n : Nat) (kind : String) :
    List Diagnostic :=
  (scan c settings text).filter fun d => d.range.start.line == n && d.code == some kind

/-- Of lines that are gone through with their numbers only one gives something. -/
theorem flatMap_zipIdx_of_getElem? {α β : Type*} {ls : List α} {a : α} {f : α × Nat → List β}
    (h : ls[n]? = some a) (k : Nat) (hf : ∀ l : α × Nat, l.2 ≠ k + n → f l = []) :
    (ls.zipIdx k).flatMap f = f (a, k + n) := by
  induction ls generalizing n k with
  | nil => simp at h
  | cons b ls ih =>
    rw [List.zipIdx_cons, List.flatMap_cons]
    cases n with
    | zero =>
      obtain rfl : b = a := by simpa using h
      -- the lines behind have greater numbers
      have hrest : (ls.zipIdx (k + 1)).flatMap f = [] := by
        refine List.flatMap_eq_nil_iff.mpr fun l hl => hf l ?_
        have hle := (List.mem_zipIdx hl).1
        omega
      rw [hrest, List.append_nil, Nat.add_zero]
    | succ n =>
      have hfirst : f (b, k) = [] := hf (b, k) (by simp)
      have hk : k + (n + 1) = k + 1 + n := by omega
      rw [hk] at hf ⊢
      rw [hfirst, List.nil_append, ih (by simpa using h) (k + 1) hf]

/-- The warnings of one kind on a line are the remarks of this kind on its names. -/
theorem remarksOn_eq (hkind : kind ≠ pipeStyle) (hraw : (lines text)[n]? = some raw) :
    remarksOn c settings text n kind =
      ((namesOfLine raw).filterMap fun m => m.2.remark? c settings n m.1).filter
        (·.code == some kind) := by
  -- a remark that is no warning is of another kind
  have hwarning : remarksOn c settings text n kind =
      ((scan c settings text).filter (·.isWarning)).filter
        fun d => d.range.start.line == n && d.code == some kind := by
    rw [List.filter_filter, remarksOn]
    refine List.filter_congr fun d hd => ?_
    rcases isWarning_or_code_of_mem_scan hd with h | h
    · rw [h, Bool.and_true]
    · simp [h, Ne.symm hkind]
  have hline : ∀ l : List Char × Nat, ∀ d ∈ (namesOfLine l.1).filterMap
      (fun m => m.2.remark? c settings l.2 m.1), d.range.start.line = l.2 := by
    intro l d hd
    obtain ⟨m, -, hm⟩ := List.mem_filterMap.mp hd
    rw [Name.start_of_remark? hm]
  rw [hwarning, filter_isWarning_scan, List.filter_flatMap, flatMap_zipIdx_of_getElem? hraw 0,
    Nat.zero_add]
  · refine List.filter_congr fun d hd => ?_
    simp [hline (raw, n) d hd]
  · intro l hl
    refine List.filter_eq_nil_iff.mpr fun d hd => ?_
    rw [Nat.zero_add] at hl
    simp [hline l d hd, hl]

theorem isUnknownOperator_iff :
    IsUnknownOperator c w ↔
      ((pipedNames c).isEmpty || (pipedNames c).any (sameIgnoringAsciiCase · (String.ofList w))) =
        false := by
  have hempty : (pipedNames c).isEmpty = false ↔ c.operators ≠ [] ∨ c.keywords ≠ [] := by
    simp only [pipedNames, List.isEmpty_eq_false_iff, ne_eq, List.append_eq_nil_iff,
      List.map_eq_nil_iff, not_and_or]
  have hnone : (pipedNames c).any (sameIgnoringAsciiCase · (String.ofList w)) = false ↔
      (∀ e ∈ c.operators, sameIgnoringAsciiCase e.name (String.ofList w) = false) ∧
        ∀ k ∈ c.keywords, sameIgnoringAsciiCase k.name (String.ofList w) = false := by
    simp only [pipedNames, List.any_append, List.any_map, Bool.or_eq_false_iff, List.any_eq_false,
      Function.comp_apply, Bool.not_eq_true]
  rw [IsUnknownOperator, Bool.or_eq_false_iff, hempty, hnone]

theorem isUnknownTable_iff :
    IsUnknownTable c w ↔ (c.tables.isEmpty || beginsStatement c (String.ofList w)) = false := by
  simp only [IsUnknownTable, beginsStatement, Bool.or_eq_false_iff, Option.isSome_eq_false_iff,
    Option.isNone_iff_eq_none, and_assoc]

instance : Decidable (IsUnknownOperator c w) := decidable_of_iff _ isUnknownOperator_iff.symm

instance : Decidable (IsUnknownTable c w) := decidable_of_iff _ isUnknownTable_iff.symm

theorem remark?_operator (w : List Char) :
    (Name.operator w).remark? c settings n j =
      if IsUnknownOperator c w then
        some (unknownWord settings "operator" unknownOperator n j w (pipedNames c))
      else none := by
  simp only [Name.remark?, isUnknownOperator_iff]
  cases (pipedNames c).isEmpty || (pipedNames c).any (sameIgnoringAsciiCase · (String.ofList w)) <;>
    rfl

theorem remark?_table (w : List Char) :
    (Name.table w).remark? c settings n j =
      if IsUnknownTable c w then
        some (unknownWord settings "table" unknownTable n j w (c.tables.values.map (·.name)))
      else none := by
  simp only [Name.remark?, isUnknownTable_iff]
  cases c.tables.isEmpty || beginsStatement c (String.ofList w) <;> rfl

theorem namesOfLine_eq (hblank : ¬ IsBlankText raw) (hcomment : ¬ "//".toList <+: trim raw) :
    namesOfLine raw = namesOf (mask raw) := by
  have hstays : Layout.staysWhole 0 raw = false :=
    Layout.staysWhole_eq_false_iff.mpr ⟨hblank, hcomment, rfl⟩
  rw [namesOfLine, hstays, if_neg Bool.false_ne_true]

/-- The kind of the remark on a name. -/
def Name.code : Name → String
  | table _ => unknownTable
  | operator _ => unknownOperator

theorem Name.code_of_remark? {name : Name} (h : name.remark? c settings n j = some d) :
    d.code = some name.code := by
  cases name <;>
  · simp only [Name.remark?] at h
    split at h
    · cases h
    · cases h
      rfl

/-- The remarks of one kind are those on the names that are remarked on in this way. -/
theorem filter_code_remarks (names : List (Nat × Name)) :
    (names.filterMap fun m => m.2.remark? c settings n m.1).filter (·.code == some kind) =
      (names.filter (·.2.code == kind)).filterMap fun m => m.2.remark? c settings n m.1 := by
  rw [List.filter_filterMap, List.filterMap_filter]
  refine List.filterMap_congr fun m _ => ?_
  cases hremark : m.2.remark? c settings n m.1 with
  | none => simp
  | some d => simp [Option.filter, Name.code_of_remark? hremark]

/-- The remarks on unknown operators in a line are those on the unknown words behind its pipes. -/
theorem remarksOn_unknownOperator (hraw : (lines text)[n]? = some raw)
    (hblank : ¬ IsBlankText raw) (hcomment : ¬ "//".toList <+: trim raw) :
    remarksOn c settings text n unknownOperator =
      ((pipedWords 0 (mask raw)).filter fun found => decide (IsUnknownOperator c found.2)).map
        fun found => unknownWord settings "operator" unknownOperator n found.1 found.2
          (pipedNames c) := by
  have hnames : (namesOf (mask raw)).filter (·.2.code == unknownOperator) =
      (pipedWords 0 (mask raw)).map fun w => (w.1, Name.operator w.2) := by
    have htable : (unknownTable == unknownOperator) = false := by decide
    cases hname : statementName? (mask raw) <;>
      simp [namesOf, hname, Name.code, htable, List.filter_map, Function.comp_def]
  rw [remarksOn_eq (by decide) hraw, namesOfLine_eq hblank hcomment, filter_code_remarks, hnames,
    List.filterMap_map, ← List.filterMap_eq_map, List.filterMap_filter]
  simp only [Function.comp_def, remark?_operator, decide_eq_true_eq]

/-- The remark on an unknown table in a line is the one on the name at its beginning. -/
theorem remarksOn_unknownTable (hraw : (lines text)[n]? = some raw)
    (hblank : ¬ IsBlankText raw) (hcomment : ¬ "//".toList <+: trim raw) :
    remarksOn c settings text n unknownTable =
      ((statementName? (mask raw)).filter fun w => decide (IsUnknownTable c w)).toList.map
        fun w => unknownWord settings "table" unknownTable n 0 w
          (c.tables.values.map (·.name)) := by
  have hnames : (namesOf (mask raw)).filter (·.2.code == unknownTable) =
      ((statementName? (mask raw)).map fun w => (0, Name.table w)).toList := by
    have htable : (unknownOperator == unknownTable) = false := by decide
    cases hname : statementName? (mask raw) <;>
      simp [namesOf, hname, Name.code, htable, List.filter_map, Function.comp_def]
  rw [remarksOn_eq (by decide) hraw, namesOfLine_eq hblank hcomment, filter_code_remarks, hnames]
  cases hname : statementName? (mask raw) with
  | none => rfl
  | some w =>
    rw [Option.map_some, Option.toList_some, List.filterMap_cons, remark?_table]
    by_cases hunknown : IsUnknownTable c w <;> simp [hunknown, Option.filter]

/-- Line `n` of a text is flagged for the unknown names in `line`: once for each pipe with an
unknown word behind it, and once for the name at its beginning if that is unknown. -/
structure FlagsUnknownNames (c : Catalog) (settings : Settings) (text : List Char) (n : Nat)
    (line : List Char) : Prop where
  /-- The remarks on operators are on the words behind the pipes that an unknown word follows, one
  for each such pipe. -/
  operators : ∃ bars : List Nat, bars.Pairwise (· < ·) ∧
    (∀ i, i ∈ bars ↔ ∃ j w, IsPipedWord line i j w ∧ IsUnknownOperator c w) ∧
      List.Forall₂
        (fun i d => ∃ j w, IsPipedWord line i j w ∧ IsUnknownOperator c w ∧
          d = unknownWord settings "operator" unknownOperator n j w (pipedNames c))
        bars (remarksOn c settings text n unknownOperator)
  /-- An unknown name at the beginning is remarked on once. -/
  table : ∀ w, IsStatementName line w → IsUnknownTable c w →
    remarksOn c settings text n unknownTable =
      [unknownWord settings "table" unknownTable n 0 w (c.tables.values.map (·.name))]
  /-- Nothing but an unknown name at the beginning is remarked on as a table. -/
  noTable : (¬ ∃ w, IsStatementName line w ∧ IsUnknownTable c w) →
    remarksOn c settings text n unknownTable = []

theorem flagsUnknownNames (hraw : (lines text)[n]? = some raw) (hblank : ¬ IsBlankText raw)
    (hcomment : ¬ "//".toList <+: trim raw) :
    FlagsUnknownNames c settings text n (mask raw) := by
  constructor
  · obtain ⟨bars, h⟩ :=
      exists_standBehind (fun w => decide (IsUnknownOperator c w)) 0 (mask raw)
    have hmem := h.mem_iff
    simp only [decide_eq_true_eq] at hmem
    refine ⟨bars, h.sorted, hmem, ?_⟩
    rw [remarksOn_unknownOperator hraw hblank hcomment]
    refine List.forall₂_map_right_iff.mpr (h.words.imp ?_)
    rintro i w ⟨j, hcolumn, hword, hunknown⟩
    rw [Nat.zero_add] at hcolumn
    exact ⟨j, w.2, hword, of_decide_eq_true hunknown, by rw [hcolumn]⟩
  · intro w hname hunknown
    rw [remarksOn_unknownTable hraw hblank hcomment, statementName?_eq_some_iff.mpr hname]
    simp [Option.filter, hunknown]
  · intro hnone
    have hfilter : (statementName? (mask raw)).filter (fun w => decide (IsUnknownTable c w)) =
        none := by
      refine Option.filter_eq_none_iff.mpr fun w hw hunknown => hnone ⟨w, ?_, ?_⟩
      · exact statementName?_eq_some_iff.mp hw
      · exact of_decide_eq_true hunknown
    rw [remarksOn_unknownTable hraw hblank hcomment, hfilter]
    rfl

/-! ### Other lines, and catalogs without names -/

/-- On a line that is blank or a comment there is no remark. -/
theorem exists_line_of_mem_scan (hd : d ∈ scan c settings text) :
    ∃ raw, (lines text)[d.range.start.line]? = some raw ∧ ¬ IsBlankText raw ∧
      ¬ "//".toList <+: trim raw := by
  obtain ⟨n, raw, hraw, hd⟩ := mem_scan_iff.mp hd
  refine ⟨raw, ?_, ?_⟩
  · rw [line_of_mem_ofLine hd]
    exact hraw
  · -- such lines are skipped
    rw [← trim_eq_nil_iff, ← List.isEmpty_iff, ← List.isPrefixOf_iff_prefix, ← not_or,
      ← Bool.or_eq_true]
    intro hnone
    rw [ofLine] at hd
    dsimp only at hd
    rw [if_pos hnone] at hd
    cases hd

/-- A catalog without tables, operators and keywords accepts every name. -/
theorem isWarning_eq_false_of_mem_scan (htables : c.tables.isEmpty = true)
    (hoperators : c.operators = []) (hkeywords : c.keywords = []) (hd : d ∈ scan c settings text) :
    d.isWarning = false := by
  have hknown : pipedNames c = [] := by rw [pipedNames, hoperators, hkeywords]; rfl
  have hnone : ∀ (n : Nat) (m : Nat × Name), m.2.remark? c settings n m.1 = none := by
    intro n m
    cases m.2 with
    | table w => simp [Name.remark?, htables]
    | operator w => simp [Name.remark?, hknown]
  have hwarnings : (scan c settings text).filter (·.isWarning) = [] := by
    rw [filter_isWarning_scan]
    refine List.flatMap_eq_nil_iff.mpr fun l _ => ?_
    exact List.filterMap_eq_nil_iff.mpr fun m _ => hnone l.2 m
  exact Bool.not_eq_true _ |>.mp (List.filter_eq_nil_iff.mp hwarnings d hd)

/-- Looking through a text flags the unknown names of each line that is neither blank nor a comment,
and remarks on nothing in the other lines. If there are no names that could be meant, nothing is
flagged. -/
theorem scan_flags_unknown_names (c : Catalog) (settings : Settings) (text : List Char) :
    (∀ n raw, (lines text)[n]? = some raw → ¬ IsBlankText raw → ¬ "//".toList <+: trim raw →
      FlagsUnknownNames c settings text n (mask raw)) ∧
    (∀ d ∈ scan c settings text, ∃ raw, (lines text)[d.range.start.line]? = some raw ∧
      ¬ IsBlankText raw ∧ ¬ "//".toList <+: trim raw) ∧
    (c.tables.isEmpty = true → c.operators = [] → c.keywords = [] →
      ∀ d ∈ scan c settings text, d.isWarning = false) :=
  ⟨fun _ _ hraw hblank hcomment => flagsUnknownNames hraw hblank hcomment,
    fun _ hd => exists_line_of_mem_scan hd,
    fun htables hoperators hkeywords _ hd =>
      isWarning_eq_false_of_mem_scan htables hoperators hkeywords hd⟩

/-- A catalog with one table and one operator. -/
def rowsCatalog : Catalog :=
  ((∅ : Catalog).addTable { name := "Rows" }).addOperator { name := "where" }

/-- A line with a name at its beginning, an unknown word behind a pipe, a pipe in a literal and a
known word, and a comment. -/
def rowsText : List Char := "Rws | foo-bar 'a | b' |where x\n // | gone".toList

theorem scan_flags_unknown_names_rowsText :
    remarksOn rowsCatalog {} rowsText 0 unknownOperator ≠ [] ∧
    remarksOn rowsCatalog {} rowsText 0 unknownTable =
      [unknownWord {} "table" unknownTable 0 0 "Rws".toList ["Rows"]] ∧
    ∀ d ∈ scan ∅ {} rowsText, d.isWarning = false := by
  have hline := (scan_flags_unknown_names rowsCatalog {} rowsText).1 0
    "Rws | foo-bar 'a | b' |where x".toList (by decide) (by decide) (by decide)
  refine ⟨fun hnone => ?_, ?_, ?_⟩
  · obtain ⟨bars, -, hmem, hfound⟩ := hline.operators
    have hbar : 4 ∈ bars := by
      refine (hmem 4).mpr ⟨6, "foo-bar".toList, ?_, by decide⟩
      exact ⟨"Rws ".toList, _, [' '], rfl, rfl, ⟨_, rfl, by decide, by decide +kernel, rfl⟩, rfl⟩
    rw [hnone, List.forall₂_nil_right_iff] at hfound
    rw [hfound] at hbar
    cases hbar
  · exact hline.table "Rws".toList ⟨by decide +kernel, _, rfl, rfl⟩ (by decide +kernel)
  · exact (scan_flags_unknown_names ∅ {} rowsText).2.2 rfl rfl rfl

end QueryAssist.Diagnostic
