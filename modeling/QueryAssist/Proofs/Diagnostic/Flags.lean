import QueryAssist.Proofs.Diagnostic.Layout

/-!
# What a text is flagged for

The kinds of the remarks on a text depend on the names in its lines. A text that is nothing but one
name is looked up as the beginning of a statement, and behind a pipe as an operator.

## Main definitions

* `Diagnostic.IsFlagged` — a text gives a remark of a kind
* `Diagnostic.isName` — a name: what an identifier begins with, then characters of a class

## Main results

* `isFlagged_iff` — a text is flagged for the names in its lines
* `isFlagged_unknownTable_iff` — a name alone is flagged unless it may begin a statement
* `isFlagged_unknownOperator_iff` — a name behind a pipe is flagged unless it is among the names
  that may stand there
-/

namespace QueryAssist.Diagnostic

open Text Literal Layout Context

variable {c : Catalog} {settings : Settings} {text w : List Char} {code : String}
  {d : Diagnostic}

/-- The text gives a remark of the kind `code`. -/
def IsFlagged (c : Catalog) (settings : Settings) (text : List Char) (code : String) : Prop :=
  ∃ d ∈ scan c settings text, d.code = some code

/-- Whether a text begins like an identifier and goes on with characters of a class only. -/
def isName (goesOn : Char → Bool) : List Char → Bool
  | [] => false
  | c :: rest => isIdentifierStart c && rest.all goesOn

/-! ### Kinds of remarks -/

/-- What is no warning is a remark on a pipe. -/
theorem isWarning_or_code_of_mem_ofLine {lineNumber : Nat} {raw : List Char}
    (h : d ∈ ofLine c settings lineNumber raw) : d.isWarning = true ∨ d.code = some pipeStyle := by
  rcases of_mem_ofLine h with ⟨n, -, hn⟩ | h
  · exact Or.inl (Name.isWarning_of_remark? hn)
  · obtain ⟨-, -, -, hcode, -⟩ := of_mem_ofInlinePipe h
    exact Or.inr hcode

theorem isWarning_or_code_of_mem_scan (h : d ∈ scan c settings text) :
    d.isWarning = true ∨ d.code = some pipeStyle := by
  obtain ⟨n, raw, -, hd⟩ := mem_scan_iff.mp h
  exact isWarning_or_code_of_mem_ofLine hd

/-- A text is flagged for the names in its lines, style apart. -/
theorem isFlagged_iff (hcode : code ≠ pipeStyle) :
    IsFlagged c settings text code ↔
      ∃ line ∈ lines text, ∃ name ∈ namesIn line, ∃ said ∈ name.content? c settings,
        said.1 = some code := by
  have hwarnings : IsFlagged c settings text code ↔
      ∃ said ∈ ((scan c settings text).filter (·.isWarning)).map content, said.1 = some code := by
    constructor
    · rintro ⟨d, hd, hdcode⟩
      rcases isWarning_or_code_of_mem_scan hd with hwarning | hstyle
      · exact ⟨content d, List.mem_map_of_mem (List.mem_filter.mpr ⟨hd, hwarning⟩), hdcode⟩
      · rw [hdcode] at hstyle
        exact (hcode (Option.some.inj hstyle)).elim
    · rintro ⟨said, hsaid, hsaidcode⟩
      obtain ⟨d, hd, rfl⟩ := List.mem_map.mp hsaid
      exact ⟨d, (List.mem_filter.mp hd).1, hsaidcode⟩
  rw [hwarnings, map_content_filter_isWarning_scan]
  constructor
  · rintro ⟨said, hsaid, hsaidcode⟩
    obtain ⟨name, hname, hcontent⟩ := List.mem_filterMap.mp hsaid
    obtain ⟨line, hline, hname⟩ := List.mem_flatMap.mp hname
    exact ⟨line, hline, name, hname, said, hcontent, hsaidcode⟩
  · rintro ⟨line, hline, name, hname, said, hcontent, hsaidcode⟩
    have hmem := List.mem_flatMap.mpr ⟨line, hline, hname⟩
    exact ⟨said, List.mem_filterMap.mpr ⟨name, hmem, hcontent⟩, hsaidcode⟩

/-- A text of one line with one name is flagged for what is said about the name. -/
theorem isFlagged_iff_of_namesIn {name : Name} (hcode : code ≠ pipeStyle)
    (hline : lines text = [text]) (hname : namesIn text = [name]) :
    IsFlagged c settings text code ↔
      ∃ said ∈ name.content? c settings, said.1 = some code := by
  rw [isFlagged_iff hcode, hline]
  simp [hname]

/-! ### Names -/

/-- A name has no character that it can neither begin nor go on with. -/
theorem notMem_of_isName {goesOn : Char → Bool} {c : Char} (h : isName goesOn w = true)
    (hstart : isIdentifierStart c = false) (hgoesOn : goesOn c = false) : c ∉ w := by
  cases w with
  | nil => exact List.not_mem_nil
  | cons c' rest =>
    obtain ⟨hc', hrest⟩ := Bool.and_eq_true_iff.mp h
    intro hmem
    rcases List.mem_cons.mp hmem with rfl | hmem
    · rw [hstart] at hc'
      cases hc'
    · have hc := List.all_eq_true.mp hrest c hmem
      rw [hgoesOn] at hc
      cases hc

theorem isName_isHyphenated (h : isName isWord w = true) : isName isHyphenated w = true := by
  cases w with
  | nil => cases h
  | cons c rest =>
    obtain ⟨hc, hrest⟩ := Bool.and_eq_true_iff.mp h
    refine Bool.and_eq_true_iff.mpr ⟨hc, List.all_eq_true.mpr fun c' hc' => ?_⟩
    exact Bool.or_eq_true_iff.mpr (Or.inl (List.all_eq_true.mp hrest c' hc'))

theorem ne_nil_of_isName {goesOn : Char → Bool} (h : isName goesOn w = true) : w ≠ [] := by
  rintro rfl
  cases h

theorem blank_notMem_of_isName {c : Char} (h : isName isHyphenated w = true)
    (hc : isBlank c = true) : c ∉ w :=
  notMem_of_isName h (isIdentifierStart_of_isBlank hc) (isHyphenated_of_isBlank hc)

theorem bar_notMem_of_isName (h : isName isHyphenated w = true) : '|' ∉ w :=
  notMem_of_isName h (by decide) isHyphenated_bar

theorem slash_notMem_of_isName (h : isName isHyphenated w = true) : '/' ∉ w :=
  notMem_of_isName h (by decide) (by decide +kernel)

/-- Nothing of a name is part of a literal or a comment. -/
theorem mask_of_isName (h : isName isHyphenated w = true) : mask w = w :=
  mask_of_notMem (notMem_of_isName h (by decide) (by decide +kernel))
    (notMem_of_isName h (by decide) (by decide +kernel)) (slash_notMem_of_isName h)

theorem trimStart_of_isName (h : isName isHyphenated w = true) : trimStart w = w := by
  cases w with
  | nil => rfl
  | cons c rest =>
    have hc : isBlank c = false := by
      rw [← Bool.not_eq_true]
      exact fun hblank => blank_notMem_of_isName h hblank List.mem_cons_self
    rw [trimStart, List.dropWhile_cons_of_neg (by simp [hc])]

theorem staysWhole_of_isName (h : isName isHyphenated w = true) : staysWhole 0 w = false := by
  refine staysWhole_eq_false_iff.mpr ⟨fun hblank => ?_, fun hcomment => ?_, rfl⟩
  · have htrim := trimStart_of_isName h
    rw [trimStart_eq_nil_iff.mpr hblank] at htrim
    exact ne_nil_of_isName h htrim.symm
  · -- a comment would begin with a slash of the name
    rw [trim, trimStart_of_isName h] at hcomment
    have hslash : '/' ∈ "//".toList := by decide
    exact slash_notMem_of_isName h ((hcomment.trans (trimEnd_isPrefix w)).subset hslash)

/-! ### A name alone and behind a pipe -/

theorem statementName?_of_isName (h : isName isWord w = true) : statementName? w = some w := by
  cases w with
  | nil => cases h
  | cons c rest =>
    obtain ⟨hc, hrest⟩ := Bool.and_eq_true_iff.mp h
    have hgoesOn := List.all_eq_true.mp hrest
    rw [statementName?, List.dropWhile_eq_nil_iff.mpr hgoesOn,
      List.takeWhile_eq_self_iff.mpr hgoesOn, hc]
    rfl

/-- A text that is one name is the name of a statement. -/
theorem namesIn_of_isName (h : isName isWord w = true) : namesIn w = [.table w] := by
  have hplain := isName_isHyphenated h
  have hwords : wordsOf w = [] := wordsOf_of_bar_notMem (bar_notMem_of_isName hplain)
  rw [namesIn_eq, staysWhole_of_isName hplain, if_neg Bool.false_ne_true, mask_of_isName hplain,
    statementName?_of_isName h, hwords]
  rfl

/-- A pipe with one name behind it has that name only. -/
theorem namesIn_bar_of_isName (h : isName isHyphenated w = true) :
    namesIn ('|' :: ' ' :: w) = [.operator w] := by
  have hblank : IsBlankText [' '] := by decide
  have hwhole : staysWhole 0 ('|' :: ' ' :: w) = false := staysWhole_indent_bar isBlankText_nil _
  have hmask : mask ('|' :: ' ' :: w) = '|' :: ' ' :: w :=
    (mask_append_bar (a := []) rfl (' ' :: w)).trans
      (congrArg ('|' :: ·) ((mask_blank_append hblank w).1.trans
        (congrArg (' ' :: ·) (mask_of_isName h))))
  have hword : pipedWord? w = some w := by
    rw [pipedWord?, trimStart_of_isName h]
    cases w with
    | nil => cases h
    | cons c rest =>
      obtain ⟨hc, hrest⟩ := Bool.and_eq_true_iff.mp h
      simp only [hc, if_true, List.takeWhile_eq_self_iff.mpr (List.all_eq_true.mp hrest)]
  have hwords : wordsOf ('|' :: ' ' :: w) = [w] := by
    have hskip := wordsOf_bar_blank_append hblank w
    rw [wordsOf_bar w, hword, wordsOf_of_bar_notMem (bar_notMem_of_isName h)] at hskip
    exact hskip
  rw [namesIn_eq, hwhole, if_neg Bool.false_ne_true, hmask, hwords,
    statementName?_of_endsName (endsName_bar _)]
  rfl

/-- A name alone is flagged unless there are no tables or the name may begin a statement. -/
theorem isFlagged_unknownTable_iff (h : isName isWord w = true) :
    IsFlagged c settings w unknownTable ↔
      c.tables.isEmpty = false ∧ beginsStatement c (String.ofList w) = false := by
  have hplain := isName_isHyphenated h
  have hline : lines w = [w] :=
    lines_of_notMem (blank_notMem_of_isName hplain (by decide)) (ne_nil_of_isName h)
  rw [isFlagged_iff_of_namesIn (by decide) hline (namesIn_of_isName h), ← Bool.or_eq_false_iff,
    Name.content?, Name.remark?]
  cases c.tables.isEmpty || beginsStatement c (String.ofList w) <;>
    simp [content, unknownWord, unknownName]

/-- A name behind a pipe is flagged unless no names may stand there or it is one of them. -/
theorem isFlagged_unknownOperator_iff (h : isName isHyphenated w = true) :
    IsFlagged c settings ('|' :: ' ' :: w) unknownOperator ↔
      (pipedNames c).isEmpty = false ∧
        ∀ known ∈ pipedNames c, sameIgnoringAsciiCase known (String.ofList w) = false := by
  have hbreak : '\n' ∉ '|' :: ' ' :: w := by
    have hw : '\n' ∉ w := blank_notMem_of_isName h (by decide)
    simpa using hw
  have hany : (∀ known ∈ pipedNames c, sameIgnoringAsciiCase known (String.ofList w) = false) ↔
      (pipedNames c).any (sameIgnoringAsciiCase · (String.ofList w)) = false := by simp
  rw [isFlagged_iff_of_namesIn (by decide) (lines_of_notMem hbreak (by simp))
    (namesIn_bar_of_isName h), hany, ← Bool.or_eq_false_iff, Name.content?, Name.remark?]
  cases (pipedNames c).isEmpty ||
      (pipedNames c).any (sameIgnoringAsciiCase · (String.ofList w)) <;>
    simp [content, unknownWord, unknownName]

end QueryAssist.Diagnostic
