import QueryAssist.Proofs.Diagnostic.Unknown

/-!
# The ranges of diagnostics

What is found in a line is found after its literals and comments have been blanked out, but what it
is about has neither blanks nor quotes, so the line as it is written has the same characters in the
same columns. Names and pipes do not overlap, so the diagnostics of a text are about stretches that
are apart, and sorting brings them in the order of the text.

## Main definitions

* `Position.IsBefore` — the strict order of positions
* `Range.Contains`, `Range.IsDisjoint` — the positions in a stretch
* `Range.EndsBefore`, `Range.IsApart` — one stretch ends before another one begins
* `Diagnostic.quotedName`, `Diagnostic.IsAbout` — what a diagnostic is about
* `Diagnostic.IsExactOn` — the range of a diagnostic covers what the diagnostic is about
* `Diagnostic.StandsAt` — a text stands in a line at a column

## Main results

* `StandsAt.of_mask` — what is found in the blanked out line stands in the line
* `isExactOn_of_mem_ofLine` — the ranges of the diagnostics of a line are exact
* `pairwise_endsBefore_scan` — each diagnostic of a text ends before the next one begins
* `scan_ranges` — the ranges of the diagnostics of a text
-/

namespace QueryAssist

/-! ### Positions and stretches -/

/-- One position is before another one. -/
def Position.IsBefore (p q : Position) : Prop :=
  p.line < q.line ∨ p.line = q.line ∧ p.column < q.column

namespace Range

open Diagnostic (precedes_iff precedes_of_line_lt)

variable {r r' : Range}

/-- The position is in the stretch. -/
def Contains (r : Range) (p : Position) : Prop := r.start.precedes p = true ∧ p.IsBefore r.stop

/-- No position is in both stretches. -/
def IsDisjoint (r r' : Range) : Prop := ∀ p, ¬ (r.Contains p ∧ r'.Contains p)

/-- The first stretch ends where the second one begins, or before. -/
def EndsBefore (r r' : Range) : Prop := r.stop.precedes r'.start = true

theorem EndsBefore.isDisjoint (h : r.EndsBefore r') : r.IsDisjoint r' := by
  rintro p ⟨⟨-, hbefore⟩, hstart, -⟩
  rw [EndsBefore, precedes_iff] at h
  rw [precedes_iff] at hstart
  unfold Position.IsBefore at hbefore
  omega

/-- One of the stretches ends before the other one begins. -/
def IsApart (r r' : Range) : Prop := r.EndsBefore r' ∨ r'.EndsBefore r

theorem IsApart.symm (h : r.IsApart r') : r'.IsApart r := Or.symm h

theorem endsBefore_onLine {n i j i' j' : Nat} :
    (onLine n i j).EndsBefore (onLine n i' j') ↔ j ≤ i' := by
  simp [EndsBefore, onLine, precedes_iff]

theorem endsBefore_of_line_lt (h : r.stop.line < r'.start.line) : r.EndsBefore r' :=
  precedes_of_line_lt h

/-- Of two stretches that are apart, the one that begins first ends before the other one. -/
theorem IsApart.endsBefore (h : r.IsApart r') (hr' : r'.start.IsBefore r'.stop)
    (hstart : r.start.precedes r'.start = true) : r.EndsBefore r' := by
  refine h.resolve_right fun h' => ?_
  rw [EndsBefore, precedes_iff] at h'
  rw [precedes_iff] at hstart
  unfold Position.IsBefore at hr'
  omega

/-- A stretch that ends before another one begins before it. -/
theorem EndsBefore.start_isBefore (h : r.EndsBefore r') (hr : r.start.IsBefore r.stop) :
    r.start.IsBefore r'.start := by
  rw [EndsBefore, precedes_iff] at h
  unfold Position.IsBefore at hr ⊢
  omega

end Range

namespace Diagnostic

open Text Literal Context

variable {c : Catalog} {settings : Settings} {text raw line l w : List Char} {d : Diagnostic}
  {j k n : Nat}

/-! ### What a diagnostic is about -/

/-- The name that a message quotes: what stands between its first two quotes. -/
def quotedName (message : String) : List Char :=
  (message.toList.dropWhile (· != '\'')).tail.takeWhile (· != '\'')

/-- The diagnostic is about the text `covered`: the name that its message quotes, or a pipe if it is
a remark on style. -/
structure IsAbout (d : Diagnostic) (covered : List Char) : Prop where
  /-- There are three kinds of remarks. -/
  code_eq : d.code = some unknownTable ∨ d.code = some unknownOperator ∨ d.code = some pipeStyle
  /-- A remark on an unknown name quotes the name. -/
  quotedName_eq : d.code = some unknownTable ∨ d.code = some unknownOperator →
    quotedName d.message = covered
  /-- A remark on style is about one pipe. -/
  eq_bar : d.code = some pipeStyle → covered = ['|']

/-- The diagnostic has its range on line `n`, which is `raw`, and the columns of the range hold what
the diagnostic is about. -/
structure IsExactOn (n : Nat) (raw : List Char) (d : Diagnostic) : Prop where
  /-- The range begins on the line. -/
  start_line : d.range.start.line = n
  /-- It ends on the line. -/
  stop_line : d.range.stop.line = n
  /-- It is not empty. -/
  column_lt : d.range.start.column < d.range.stop.column
  /-- It does not go beyond the end of the line. -/
  column_le : d.range.stop.column ≤ raw.length
  /-- It covers what the diagnostic is about. -/
  isAbout : d.IsAbout (raw.extract d.range.start.column d.range.stop.column)

/-- What stands between the first two quotes of a message is the name that it quotes. -/
theorem quotedName_append {a rest : List Char} {message : String}
    (hmessage : message.toList = a ++ '\'' :: (w ++ '\'' :: rest)) (ha : '\'' ∉ a) (hw : '\'' ∉ w) :
    quotedName message = w := by
  have hall : ∀ l : List Char, '\'' ∉ l → ∀ c ∈ l, (c != '\'') = true := by
    intro l hl c hc
    rw [bne_iff_ne]
    rintro rfl
    exact hl hc
  rw [quotedName, hmessage, List.dropWhile_append_of_pos (hall a ha),
    List.dropWhile_cons_of_neg (by decide), List.tail_cons,
    List.takeWhile_append_of_pos (hall w hw), List.takeWhile_cons_of_neg (by decide),
    List.append_nil]

theorem exists_toList_unknownNameMessage (what : String) (w : List Char)
    (suggestions : List String) :
    ∃ rest, (unknownNameMessage what (String.ofList w) suggestions).toList =
      ("Unknown ".toList ++ what.toList ++ [' ']) ++ '\'' :: (w ++ '\'' :: rest) := by
  unfold unknownNameMessage
  dsimp only
  split
  · exact ⟨[], by simp⟩
  · exact ⟨". Did you mean ".toList ++
      (", ".intercalate (suggestions.map fun s => "'" ++ s ++ "'")).toList ++ "?".toList, by simp⟩

/-- The message about an unknown name quotes the name before any suggestion. -/
theorem quotedName_unknownNameMessage {what : String} (hwhat : '\'' ∉ what.toList) (hw : '\'' ∉ w)
    (suggestions : List String) :
    quotedName (unknownNameMessage what (String.ofList w) suggestions) = w := by
  obtain ⟨rest, hmessage⟩ := exists_toList_unknownNameMessage what w suggestions
  have hbefore : '\'' ∉ "Unknown ".toList ++ what.toList ++ [' '] := by simp [hwhat]
  exact quotedName_append hmessage hbefore hw

theorem Name.quotedName_of_remark? {name : Name} (hw : '\'' ∉ name.word)
    (h : name.remark? c settings n j = some d) : quotedName d.message = name.word := by
  cases name <;>
  · simp only [Name.remark?] at h
    split at h
    · cases h
    · cases h
      simp only [unknownWord, unknownName, of_span_self]
      exact quotedName_unknownNameMessage (by decide) hw _

/-! ### Columns of the line and of what is shown of it -/

/-- The text `w` stands in a line from column `j` on. -/
def StandsAt (l : List Char) (j : Nat) (w : List Char) : Prop :=
  ∃ a b, l = a ++ w ++ b ∧ j = a.length

namespace StandsAt

theorem extract_eq (h : StandsAt l j w) : l.extract j (j + w.length) = w := by
  obtain ⟨a, b, rfl, rfl⟩ := h
  simp [List.extract_eq_take_drop, List.append_assoc]

theorem column_le (h : StandsAt l j w) : j + w.length ≤ l.length := by
  obtain ⟨a, b, rfl, rfl⟩ := h
  simp only [List.length_append]
  omega

theorem getElem?_add (h : StandsAt l j w) (hk : k < w.length) : l[j + k]? = some w[k] := by
  obtain ⟨a, b, rfl, rfl⟩ := h
  rw [List.append_assoc, List.getElem?_append_right (Nat.le_add_right _ _),
    Nat.add_sub_cancel_left, List.getElem?_append_left hk, List.getElem?_eq_getElem hk]

theorem of_getElem? (hj : j ≤ l.length) (h : ∀ k (hk : k < w.length), l[j + k]? = some w[k]) :
    StandsAt l j w := by
  have hprefix : w <+: l.drop j := by
    refine List.prefix_iff_getElem?.mpr fun k hk => ?_
    rw [List.getElem?_drop]
    exact h k hk
  obtain ⟨b, hb⟩ := hprefix
  refine ⟨l.take j, b, ?_, (List.length_take_of_le hj).symm⟩
  rw [List.append_assoc, hb, List.take_append_drop]

theorem singleton {ch : Char} (h : l[j]? = some ch) : StandsAt l j [ch] := by
  obtain ⟨hlt, -⟩ := List.getElem?_eq_some_iff.mp h
  refine of_getElem? hlt.le fun k hk => ?_
  obtain rfl : k = 0 := Nat.lt_one_iff.mp hk
  exact h

/-- A character that is not in the text stands before it or behind it. -/
theorem lt_or_le {ch : Char} (h : StandsAt l j w) (hch : l[k]? = some ch) (hw : ch ∉ w) :
    k < j ∨ j + w.length ≤ k := by
  by_contra hwithin
  have hk : k - j < w.length := by omega
  have hget := h.getElem?_add hk
  rw [show j + (k - j) = k by omega, hch] at hget
  exact hw (Option.some.inj hget ▸ List.getElem_mem hk)

/-- What is shown of a line and has no spaces stands in the line, in the same columns. -/
theorem of_mask (h : StandsAt (mask raw) j w) (hw : ' ' ∉ w) : StandsAt raw j w := by
  have hle := h.column_le
  rw [length_mask] at hle
  refine of_getElem? (by omega) fun k hk => ?_
  refine getElem?_of_getElem?_maskFrom (h.getElem?_add hk) fun hspace => hw ?_
  rw [← hspace]
  exact List.getElem_mem hk

end StandsAt

/-! ### The names of a line -/

theorem isName_of_mem_pipedWords (h : (j, w) ∈ pipedWords n line) :
    isName isHyphenated w = true := by
  obtain ⟨a, rest, -, hword, -⟩ := exists_bar_of_mem_pipedWords h
  obtain ⟨later, -, -, hname, -⟩ := isWordAfter_iff.mpr ⟨hword, rfl⟩
  exact hname

/-- A name stands in what is shown of the line, from its column on. -/
theorem of_mem_namesOfLine {m : Nat × Name} (h : m ∈ namesOfLine raw) :
    isName isHyphenated m.2.word = true ∧ StandsAt (mask raw) m.1 m.2.word := by
  rw [namesOfLine] at h
  split at h
  · cases h
  · rcases List.mem_append.mp h with h | h
    · obtain ⟨w, hw, rfl⟩ := Option.map_eq_some_iff.mp (Option.mem_toList.mp h)
      obtain ⟨hname, rest, hline, -⟩ := statementName?_eq_some_iff.mp hw
      exact ⟨isName_isHyphenated hname, [], rest, hline, rfl⟩
    · obtain ⟨⟨column, w⟩, hword, rfl⟩ := List.mem_map.mp h
      obtain ⟨a, b, hline, hcolumn⟩ := exists_eq_append_of_mem_pipedWords hword
      exact ⟨isName_of_mem_pipedWords hword, a, b, hline, hcolumn.trans (Nat.zero_add _)⟩

/-! ### The diagnostics of a line -/

theorem Name.isAbout_of_remark? {name : Name} (hname : isName isHyphenated name.word = true)
    (h : name.remark? c settings n j = some d) : d.IsAbout name.word where
  code_eq := by
    rw [Name.code_of_remark? h]
    cases name with
    | table w => exact Or.inl rfl
    | operator w => exact Or.inr (Or.inl rfl)
  quotedName_eq _ := by
    have hquote : '\'' ∉ name.word := notMem_of_isName hname (by decide) (by decide +kernel)
    exact Name.quotedName_of_remark? hquote h
  eq_bar hcode := by
    rw [Name.code_of_remark? h] at hcode
    cases name <;>
    · rw [Name.code] at hcode
      exact absurd hcode (by decide)

/-- What is shown of a line decides about the range of a diagnostic. -/
theorem IsAbout.isExactOn (habout : d.IsAbout w) (hw : w ≠ []) (hspace : ' ' ∉ w)
    (hstands : StandsAt (mask raw) j w) (hrange : d.range = .onLine n j (j + w.length)) :
    d.IsExactOn n raw := by
  have hraw := hstands.of_mask hspace
  have hlength := List.length_pos_of_ne_nil hw
  rw [← hraw.extract_eq] at habout
  constructor <;> rw [hrange, Range.onLine]
  · exact Nat.lt_add_of_pos_right hlength
  · exact hraw.column_le
  · exact habout

/-- The range of a diagnostic of a line covers what the diagnostic is about. -/
theorem isExactOn_of_mem_ofLine (h : d ∈ ofLine c settings n raw) : d.IsExactOn n raw := by
  rcases of_mem_ofLine h with ⟨m, hm, hremark⟩ | h
  · obtain ⟨hname, hstands⟩ := of_mem_namesOfLine hm
    exact (Name.isAbout_of_remark? hname hremark).isExactOn (ne_nil_of_isName hname)
      (blank_notMem_of_isName hname rfl) hstands (Name.range_of_remark? hremark)
  · obtain ⟨column, hbar, hrange, hcode, -⟩ := of_mem_ofInlinePipe h
    have habout : d.IsAbout ['|'] := by
      refine ⟨Or.inr (Or.inr hcode), fun hunknown => ?_, fun _ => rfl⟩
      rw [hcode] at hunknown
      exact absurd hunknown (by decide)
    exact habout.isExactOn (List.cons_ne_nil _ _) (by decide) (.singleton hbar) hrange

/-- The diagnostics of a line are about stretches that are apart. -/
theorem pairwise_isApart_ofLine (c : Catalog) (settings : Settings) (n : Nat) (raw : List Char) :
    (ofLine c settings n raw).Pairwise fun d d' => d.range.IsApart d'.range := by
  obtain ⟨hints, hhints, hline⟩ := exists_ofLine_eq c settings n raw
  rw [hline]
  refine List.pairwise_append.mpr ⟨?_, ?_, ?_⟩
  · -- the names come one behind the other
    refine (pairwise_namesOfLine raw).filterMap _ ?_
    intro m m' hcolumns d hd d' hd'
    rw [Name.range_of_remark? hd, Name.range_of_remark? hd']
    exact Or.inl (Range.endsBefore_onLine.mpr hcolumns)
  · rcases hhints with rfl | rfl
    · exact List.Pairwise.nil
    · unfold ofInlinePipe
      split
      · exact List.Pairwise.nil
      · exact List.pairwise_singleton _ _
  · -- the pipe is in no name
    intro d hd d' hd'
    obtain ⟨m, hm, hremark⟩ := List.mem_filterMap.mp hd
    obtain ⟨hname, hstands⟩ := of_mem_namesOfLine hm
    rcases hhints with rfl | rfl
    · cases hd'
    · obtain ⟨column, hbar, hrange, -⟩ := of_mem_ofInlinePipe hd'
      rw [Name.range_of_remark? hremark, hrange]
      rcases hstands.lt_or_le hbar (bar_notMem_of_isName hname) with hlt | hle
      · exact Or.inr (Range.endsBefore_onLine.mpr hlt)
      · exact Or.inl (Range.endsBefore_onLine.mpr hle)

/-! ### The diagnostics of a text -/

/-- The diagnostics of lines, as they are found, are about stretches that are apart. -/
theorem pairwise_isApart_ofLines (c : Catalog) (settings : Settings) (k : Nat)
    (ls : List (List Char)) :
    (ofLines c settings k ls).Pairwise fun d d' => d.range.IsApart d'.range := by
  induction ls generalizing k with
  | nil => exact List.Pairwise.nil
  | cons raw ls ih =>
    rw [ofLines_cons]
    refine List.pairwise_append.mpr ⟨pairwise_isApart_ofLine c settings k raw, ih (k + 1), ?_⟩
    -- what is on the first line ends before the next line begins
    intro d hd d' hd'
    have hline := (isExactOn_of_mem_ofLine hd).stop_line
    have hline' := le_line_of_mem_ofLines hd'
    have hlt : d.range.stop.line < d'.range.start.line := by omega
    exact Or.inl (Range.endsBefore_of_line_lt hlt)

/-- The range of a diagnostic of a text covers what the diagnostic is about. -/
theorem exists_isExactOn_of_mem_scan (h : d ∈ scan c settings text) :
    ∃ n raw, (lines text)[n]? = some raw ∧ d.IsExactOn n raw := by
  obtain ⟨n, raw, hraw, hd⟩ := mem_scan_iff.mp h
  exact ⟨n, raw, hraw, isExactOn_of_mem_ofLine hd⟩

theorem IsExactOn.start_isBefore (h : d.IsExactOn n raw) : d.range.start.IsBefore d.range.stop :=
  Or.inr ⟨h.start_line.trans h.stop_line.symm, h.column_lt⟩

/-- Each diagnostic of a text ends before the next one begins. -/
theorem pairwise_endsBefore_scan (c : Catalog) (settings : Settings) (text : List Char) :
    (scan c settings text).Pairwise fun d d' => d.range.EndsBefore d'.range := by
  have hsorted : (scan c settings text).Pairwise fun d d' =>
      d.range.start.precedes d'.range.start = true :=
    List.pairwise_mergeSort
      (fun d d' d'' => precedes_trans d.range.start d'.range.start d''.range.start)
      (fun d d' => precedes_total d.range.start d'.range.start) _
  have hapart : (scan c settings text).Pairwise fun d d' => d.range.IsApart d'.range :=
    (List.mergeSort_perm _ _).pairwise_iff Range.IsApart.symm |>.mpr
      (pairwise_isApart_ofLines c settings 0 (lines text))
  -- what begins first ends first, as nothing is empty
  refine (hsorted.and hapart).imp_of_mem fun _ hd' h => ?_
  obtain ⟨n, raw, -, hexact⟩ := exists_isExactOn_of_mem_scan hd'
  exact h.2.endsBefore hexact.start_isBefore h.1

/-- Each diagnostic of a text lies on a line of the text and covers what it is about: the name that
its message quotes, or a pipe. The diagnostics begin one behind the other, and no position is in two
of them. -/
theorem scan_ranges (c : Catalog) (settings : Settings) (text : List Char) :
    (∀ d ∈ scan c settings text, ∃ n raw, (lines text)[n]? = some raw ∧ d.IsExactOn n raw) ∧
      (scan c settings text).Pairwise fun d d' =>
        d.range.start.IsBefore d'.range.start ∧ d.range.IsDisjoint d'.range := by
  refine ⟨fun d hd => exists_isExactOn_of_mem_scan hd, ?_⟩
  refine (pairwise_endsBefore_scan c settings text).imp_of_mem fun hd _ h => ?_
  obtain ⟨n, raw, -, hexact⟩ := exists_isExactOn_of_mem_scan hd
  exact ⟨h.start_isBefore hexact.start_isBefore, h.isDisjoint⟩

/-- A text whose second line has a literal with a pipe and a character that takes more than one byte
before a pipe of its own. -/
def literalText : List Char := "\nRws 'é|' | wher".toList

/-- The remark on the word behind the pipe. -/
def wherRemark : Diagnostic where
  range := .onLine 1 11 15
  message := "Unknown operator 'wher'"
  severity := .warning
  code := some unknownOperator

theorem scan_ranges_literalText :
    wherRemark ∈ scan rowsCatalog { maxSuggestions := 0 } literalText ∧
      ∃ n raw, (lines literalText)[n]? = some raw ∧ wherRemark.IsExactOn n raw := by
  have hline : wherRemark ∈
      ofLine rowsCatalog { maxSuggestions := 0 } 1 "Rws 'é|' | wher".toList := by
    decide +kernel
  have hmem : wherRemark ∈ scan rowsCatalog { maxSuggestions := 0 } literalText :=
    mem_scan_iff.mpr ⟨1, "Rws 'é|' | wher".toList, by decide, hline⟩
  exact ⟨hmem, (scan_ranges rowsCatalog { maxSuggestions := 0 } literalText).1 _ hmem⟩

end Diagnostic

end QueryAssist
