import QueryAssist.Proofs.Diagnostic.Scan
import QueryAssist.Proofs.Document.Layout

/-!
# The layout keeps the warnings

A line is cut right before a pipe, where a name ends and no word behind a pipe goes on. So the
lines that a line is turned into have the names of the line, in the same order, and the same is said
about them.

## Main definitions

* `Diagnostic.wordsOf` — the words behind the pipes of a line
* `Diagnostic.namesIn` — the names of a line, without their columns

## Main results

* `wordsOf_append` — words are found in the pieces of a line
* `flatMap_namesIn_layoutLine` — the lines that a line is turned into have its names
* `warnings_scan_alignPipes` — the layout of a text does not change what its warnings say
-/

namespace QueryAssist.Diagnostic

open Text Literal Layout

variable {a b rest line raw head piece indent : List Char} {pieces : List (List Char)} {d : Nat}
  {s : Layout.State}

/-- The words behind the pipes of a line. -/
def wordsOf (line : List Char) : List (List Char) := (pipedWords 0 line).map (·.2)

/-- The names of a line, in the order in which they stand. -/
def namesIn (raw : List Char) : List Name := (namesOfLine raw).map (·.2)

/-! ### Words -/

theorem map_snd_pipedWords (n m : Nat) (line : List Char) :
    (pipedWords n line).map (·.2) = (pipedWords m line).map (·.2) := by
  induction line generalizing n m with
  | nil => rfl
  | cons c rest ih =>
    by_cases hc : c = '|'
    · subst hc
      rw [pipedWords_bar, pipedWords_bar, List.map_append, List.map_append, ih (n + 1) (m + 1)]
      cases pipedWord? rest <;> rfl
    · rw [pipedWords_cons_of_ne hc, pipedWords_cons_of_ne hc]
      exact ih (n + 1) (m + 1)

theorem wordsOf_bar (rest : List Char) :
    wordsOf ('|' :: rest) = (pipedWord? rest).toList ++ wordsOf rest := by
  rw [wordsOf, pipedWords_bar, List.map_append, map_snd_pipedWords _ 0, wordsOf]
  cases pipedWord? rest <;> rfl

theorem wordsOf_append_of_bar_notMem (h : '|' ∉ a) (b : List Char) :
    wordsOf (a ++ b) = wordsOf b := by
  rw [wordsOf, pipedWords_append_of_bar_notMem h]
  exact map_snd_pipedWords _ _ _

theorem wordsOf_of_bar_notMem (h : '|' ∉ a) : wordsOf a = [] := by
  have ha := wordsOf_append_of_bar_notMem h []
  rwa [List.append_nil] at ha

theorem wordsOf_of_blank (h : IsBlankText b) : wordsOf b = [] :=
  wordsOf_of_bar_notMem (h.notMem isBlank_bar)

theorem wordsOf_append (h : endsName rest = true) (hword : pipedWord? rest = none)
    (a : List Char) : wordsOf (a ++ rest) = wordsOf a ++ wordsOf rest := by
  rw [wordsOf, pipedWords_append h hword, List.map_append]
  exact congrArg _ (map_snd_pipedWords _ _ rest)

theorem wordsOf_append_bar (a b : List Char) :
    wordsOf (a ++ '|' :: b) = wordsOf a ++ wordsOf ('|' :: b) :=
  wordsOf_append (endsName_bar b) rfl a

theorem wordsOf_append_blank (h : IsBlankText b) (a : List Char) :
    wordsOf (a ++ b) = wordsOf a := by
  rw [wordsOf_append (endsName_of_blank h) (pipedWord?_of_blank h), wordsOf_of_blank h,
    List.append_nil]

/-- Blanks behind a pipe do not matter. -/
theorem wordsOf_bar_blank_append (h : IsBlankText b) (rest : List Char) :
    wordsOf ('|' :: (b ++ rest)) = wordsOf ('|' :: rest) := by
  rw [wordsOf_bar, pipedWord?_blank_append h, wordsOf_append_of_bar_notMem (h.notMem isBlank_bar),
    wordsOf_bar]

theorem wordsOf_bar_mask_trim (piece : List Char) :
    wordsOf ('|' :: mask (trim piece)) = wordsOf ('|' :: mask piece) := by
  obtain ⟨x, y, hx, hy, hmask⟩ := exists_mask_eq_append_mask_trim_append piece
  rw [hmask, List.append_assoc, wordsOf_bar_blank_append hx, ← List.cons_append,
    wordsOf_append_blank hy]

/-- The words of a line are found in its pieces, each of which follows a pipe. -/
theorem wordsOf_append_mask_of_cuts (h : Cuts line d head pieces) (a : List Char) :
    wordsOf (a ++ mask line) =
      wordsOf (a ++ mask head) ++ pieces.flatMap fun piece => wordsOf ('|' :: mask piece) := by
  -- by induction with anything before the line: a piece is found behind the pipe before it
  induction h generalizing a with
  | whole => simp
  | @bar x b head depth pieces hstate _ _ _ ih =>
    rw [mask_append_bar hstate, ← List.append_assoc, wordsOf_append_bar, List.flatMap_cons]
    exact congrArg _ (ih ['|'])

/-! ### Names -/

theorem namesIn_eq (raw : List Char) :
    namesIn raw =
      if staysWhole 0 raw then []
      else ((statementName? (mask raw)).map Name.table).toList ++
        (wordsOf (mask raw)).map Name.operator := by
  rw [namesIn, namesOfLine]
  split
  · rfl
  · rw [namesOf, List.map_append, List.map_map, wordsOf, List.map_map]
    cases statementName? (mask raw) <;> rfl

theorem namesIn_of_cuts (h : staysWhole 0 line = false) (hcuts : Cuts line d head pieces) :
    namesIn line =
      ((statementName? (mask head)).map Name.table).toList ++
        (wordsOf (mask head)).map Name.operator ++
          pieces.flatMap fun piece => (wordsOf ('|' :: mask piece)).map Name.operator := by
  have hname : statementName? (mask line) = statementName? (mask head) := by
    cases hcuts with
    | whole => rfl
    | @bar a b _ _ _ hstate =>
      rw [mask_append_bar hstate, statementName?_append (endsName_bar _)]
  -- the name ends before the first pipe at the latest, and the words are found piece by piece
  have hwords := wordsOf_append_mask_of_cuts hcuts []
  rw [namesIn_eq, h, if_neg Bool.false_ne_true, hname, ← List.nil_append (mask line), hwords,
    List.map_append, List.map_flatMap, List.nil_append, List.append_assoc]

/-- Blanks at the end of a line do not matter. -/
theorem namesIn_trimEnd (raw : List Char) : namesIn (trimEnd raw) = namesIn raw := by
  obtain ⟨b, hb, hmask⟩ := exists_mask_eq_mask_trimEnd_append raw
  rw [namesIn_eq, namesIn_eq, staysWhole_trimEnd, hmask,
    statementName?_append (endsName_of_blank hb), wordsOf_append_blank hb]

/-- A line that begins with a pipe begins with no name. -/
theorem namesIn_pipeLine (hindent : IsBlankText indent) (piece : List Char) :
    namesIn (pipeLine indent piece) = (wordsOf ('|' :: mask piece)).map Name.operator := by
  obtain ⟨rest, hline, hrest⟩ := exists_pipeLine_eq indent piece
  have hmask : mask (indent ++ '|' :: rest) = indent ++ '|' :: mask rest := by
    rw [mask_append_bar (mask_blank_append hindent []).2, mask_of_blank hindent]
  have hname : statementName? (indent ++ '|' :: mask rest) = none :=
    statementName?_of_endsName (endsName_blank_append hindent (endsName_bar _))
  have hwords : wordsOf ('|' :: mask rest) = wordsOf ('|' :: mask piece) := by
    rw [← wordsOf_bar_mask_trim, hrest, wordsOf_bar_mask_trim]
  rw [namesIn_eq, hline, staysWhole_indent_bar hindent, if_neg Bool.false_ne_true, hmask, hname,
    wordsOf_append_of_bar_notMem (hindent.notMem isBlank_bar), hwords]
  rfl

theorem flatMap_namesIn_map_pipeLine (hindent : IsBlankText indent) (pieces : List (List Char)) :
    (pieces.map (pipeLine indent)).flatMap namesIn =
      pieces.flatMap fun piece => (wordsOf ('|' :: mask piece)).map Name.operator := by
  rw [List.flatMap_map]
  simp only [namesIn_pipeLine hindent]

/-- The lines that a line is turned into have the names of the line. -/
theorem flatMap_namesIn_layoutLine (hindent : IsBlankText s.indent) (line : List Char) :
    (layoutLine s line).2.flatMap namesIn = namesIn line := by
  rcases layoutLine_cases s line with
    ⟨_, hline⟩ | ⟨_, hstays, d, head, pieces, hcuts, ⟨hhead, hline⟩ | ⟨hhead, hline⟩⟩
  · rw [hline, List.flatMap_singleton, namesIn_trimEnd]
  · -- what stands before the first pipe is dropped, and has no names
    rw [hline, namesIn_of_cuts hstays hcuts, flatMap_namesIn_map_pipeLine hindent,
      mask_of_blank hhead, statementName?_of_endsName (endsName_of_blank hhead),
      wordsOf_of_blank hhead]
    rfl
  · -- what stands before the first pipe becomes a line of its own
    have hnames : namesIn head = ((statementName? (mask head)).map Name.table).toList ++
        (wordsOf (mask head)).map Name.operator := by
      rw [namesIn_eq, hcuts.staysWhole_head hhead hstays, if_neg Bool.false_ne_true]
    rw [hline, namesIn_of_cuts hstays hcuts, List.flatMap_cons, namesIn_trimEnd, hnames,
      flatMap_namesIn_map_pipeLine (isBlankText_leadingBlanks line)]

/-! ### Texts -/

theorem flatMap_namesIn_layoutLines (hindent : IsBlankText s.indent) (ls : List (List Char)) :
    (layoutLines s ls).flatMap namesIn = ls.flatMap namesIn := by
  induction ls generalizing s with
  | nil => rfl
  | cons line ls ih =>
    rw [layoutLines, List.flatMap_append, flatMap_namesIn_layoutLine hindent,
      ih (isBlankText_indent_layoutLine hindent line), List.flatMap_cons]

/-- The layout of a text keeps the names that are looked up. -/
theorem flatMap_namesIn_lines_alignPipes (text : List Char) :
    (lines (alignPipes text)).flatMap namesIn = (lines text).flatMap namesIn := by
  have hlines := flatMap_namesIn_layoutLines (s := {}) isBlankText_nil (lines text)
  rcases lines_alignPipes text with h | h
  · rw [h, hlines]
  · -- an empty last line has no names
    rw [← hlines, ← h, List.flatMap_append]
    exact (List.append_nil _).symm

/-- The layout of a text neither adds nor removes a warning, and keeps what the warnings say. -/
theorem warnings_scan_alignPipes (c : Catalog) (settings : Settings) (text : List Char) :
    ((scan c settings (alignPipes text)).filter (·.isWarning)).map content =
      ((scan c settings text).filter (·.isWarning)).map content := by
  have hnames := flatMap_namesIn_lines_alignPipes text
  rw [map_content_filter_isWarning_scan, map_content_filter_isWarning_scan]
  exact congrArg (List.filterMap (·.content? c settings)) hnames

end QueryAssist.Diagnostic
