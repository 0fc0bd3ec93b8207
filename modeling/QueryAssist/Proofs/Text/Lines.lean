import Mathlib.Logic.Basic
import QueryAssist.Proofs.Text.Blank
import QueryAssist.Text.Lines

/-!
# Lines and line breaks

Splitting a text at its line breaks and joining the pieces are inverse to each other, and the lines
of a text can be read off its pieces.

## Main definitions

* `Text.IsLine` — what can stand between two line breaks without being changed by reading

## Main results

* `lines_eq_of_pieces` — the lines of a text in terms of its pieces
* `lines_joinLines_append_singleton` — joined lines are read back, up to an empty last one
* `joinLines_lines_append` — a text is made of its lines and the line break it ends in
-/

namespace QueryAssist.Text

variable {text line last : List Char} {ls : List (List Char)}

theorem piecesBetween_eq_splitOn (separator : Char) (s : List Char) :
    piecesBetween separator s = s.splitOn separator := by
  induction s with
  | nil => rfl
  | cons c s ih =>
    rw [piecesBetween, ih, List.splitOn_cons_eq_if_modifyHead]
    by_cases hc : c = separator
    · rw [if_pos hc, if_pos (beq_iff_eq.mpr hc)]
    · rw [if_neg hc, if_neg fun h => hc (beq_iff_eq.mp h)]
      cases hs : s.splitOn separator with
      | nil => exact (List.splitOn_ne_nil separator s hs).elim
      | cons piece rest => rfl

theorem joinLines_eq_intercalate (ls : List (List Char)) :
    joinLines ls = ['\n'].intercalate ls := by
  induction ls with
  | nil => rfl
  | cons line rest ih =>
    cases rest with
    | nil => simp [joinLines]
    | cons next rest =>
      rw [joinLines, ih, List.intercalate_cons_cons]
      simp

/-- A text is its pieces put together with line breaks. -/
theorem joinLines_pieces (text : List Char) : joinLines (pieces text) = text := by
  rw [joinLines_eq_intercalate, pieces, piecesBetween_eq_splitOn, List.intercalate_splitOn]

theorem joinLines_append_singleton (h : ls ≠ []) :
    joinLines (ls ++ [last]) = joinLines ls ++ '\n' :: last := by
  rw [joinLines_eq_intercalate, joinLines_eq_intercalate]
  induction ls with
  | nil => exact (h rfl).elim
  | cons line rest ih =>
    cases rest with
    | nil => simp
    | cons next rest =>
      have ih := ih (by simp)
      rw [List.cons_append, List.cons_append, List.intercalate_cons_cons, ← List.cons_append, ih,
        List.intercalate_cons_cons]
      simp

theorem pieces_ne_nil (text : List Char) : pieces text ≠ [] := by
  rw [pieces, piecesBetween_eq_splitOn]
  exact List.splitOn_ne_nil _ _

/-- Pieces without line breaks are found again in the text they are put together to. -/
theorem pieces_joinLines (h : ∀ l ∈ ls, '\n' ∉ l) (hne : ls ≠ []) :
    pieces (joinLines ls) = ls := by
  rw [pieces, piecesBetween_eq_splitOn, joinLines_eq_intercalate,
    List.splitOn_intercalate '\n' h hne]

/-- A text without line breaks is one piece. -/
theorem pieces_of_notMem (h : '\n' ∉ line) : pieces line = [line] := by
  have hline : ∀ l ∈ [line], '\n' ∉ l := by simpa using h
  exact pieces_joinLines hline (by simp)

/-- A text is cut at any of its line breaks. -/
theorem pieces_append_break (a b : List Char) : pieces (a ++ '\n' :: b) = pieces a ++ pieces b := by
  rw [pieces, pieces, pieces, piecesBetween_eq_splitOn, piecesBetween_eq_splitOn,
    piecesBetween_eq_splitOn]
  exact List.splitOnP_append_cons a b (by simp)

/-- There is one piece more than there are line breaks. -/
theorem length_pieces (text : List Char) : (pieces text).length = text.count '\n' + 1 := by
  rw [pieces]
  induction text with
  | nil => rfl
  | cons c s ih =>
    rw [piecesBetween]
    by_cases hc : c = '\n'
    · simp [hc, ih]
    · rw [if_neg hc, List.count_cons_of_ne hc, ← ih]
      cases hs : piecesBetween '\n' s with
      | nil => exact (pieces_ne_nil s hs).elim
      | cons piece rest => rfl

theorem notMem_of_mem_pieces (h : line ∈ pieces text) : '\n' ∉ line := by
  rw [pieces] at h
  induction text generalizing line with
  | nil =>
    obtain rfl : line = [] := by simpa [piecesBetween] using h
    exact List.not_mem_nil
  | cons c s ih =>
    rw [piecesBetween] at h
    split at h
    · rcases List.mem_cons.mp h with rfl | h
      · exact List.not_mem_nil
      · exact ih h
    · rename_i hc
      cases hs : piecesBetween '\n' s with
      | nil => exact (pieces_ne_nil s hs).elim
      | cons piece rest =>
        rw [hs] at h ih
        rcases List.mem_cons.mp h with rfl | h
        · have hpiece : '\n' ∉ piece := ih List.mem_cons_self
          simpa [hpiece] using fun heq => hc heq.symm
        · exact ih (List.mem_cons_of_mem _ h)

/-! ### Lines -/

/-- The text has no line break and does not end in a `\r`. -/
structure IsLine (line : List Char) : Prop where
  /-- It has no line break. -/
  notMem : '\n' ∉ line
  /-- It does not end in a `\r`, which would become part of a line break behind it. -/
  getLast? : line.getLast? ≠ some '\r'

theorem isLine_nil : IsLine [] := ⟨List.not_mem_nil, by simp⟩

theorem dropReturn_of_getLast?_ne (h : line.getLast? ≠ some '\r') : dropReturn line = line := by
  unfold dropReturn
  split
  · rename_i rest hrest
    rw [List.getLast?_eq_head?_reverse, hrest] at h
    exact (h rfl).elim
  · rfl

theorem map_dropReturn_of_getLast?_ne (h : ∀ l ∈ ls, l.getLast? ≠ some '\r') :
    ls.map dropReturn = ls :=
  (List.map_congr_left fun l hl => dropReturn_of_getLast?_ne (h l hl)).trans (List.map_id ls)

/-- Only a blank is dropped from the end of a line. -/
theorem exists_eq_dropReturn_append (line : List Char) :
    ∃ b, IsBlankText b ∧ line = dropReturn line ++ b := by
  unfold dropReturn
  split
  · rename_i rest hrest
    refine ⟨['\r'], by decide, ?_⟩
    rw [← List.reverse_cons, ← hrest, List.reverse_reverse]
  · exact ⟨[], isBlankText_nil, (List.append_nil line).symm⟩

theorem mem_of_mem_dropReturn {c : Char} (h : c ∈ dropReturn line) : c ∈ line := by
  obtain ⟨b, -, hline⟩ := exists_eq_dropReturn_append line
  rw [hline]
  exact List.mem_append_left b h

theorem linesOfPieces_append_singleton (ls : List (List Char)) (last : List Char) :
    linesOfPieces (ls ++ [last]) = ls.map dropReturn ++ if last = [] then [] else [last] := by
  induction ls with
  | nil => simp [linesOfPieces]
  | cons line rest ih =>
    cases rest with
    | nil => simp [linesOfPieces]
    | cons next rest =>
      rw [List.cons_append, List.cons_append, linesOfPieces, ← List.cons_append, ih]
      rfl

/-- Every piece but the last one is a line that ends in a line break; the last one is a line
unless it is empty. -/
theorem lines_eq_of_pieces (h : pieces text = ls ++ [last]) :
    lines text = ls.map dropReturn ++ if last = [] then [] else [last] := by
  rw [lines, h, linesOfPieces_append_singleton]

theorem exists_pieces_eq (text : List Char) : ∃ ls last, pieces text = ls ++ [last] :=
  ⟨_, _, (List.dropLast_concat_getLast (pieces_ne_nil text)).symm⟩

theorem notMem_of_mem_lines (h : line ∈ lines text) : '\n' ∉ line := by
  obtain ⟨ls, last, hpieces⟩ := exists_pieces_eq text
  rw [lines_eq_of_pieces hpieces, List.mem_append] at h
  rcases h with h | h
  · obtain ⟨piece, hpiece, rfl⟩ := List.mem_map.mp h
    have hmem : piece ∈ pieces text := hpieces ▸ List.mem_append_left _ hpiece
    exact fun hc => notMem_of_mem_pieces hmem (mem_of_mem_dropReturn hc)
  · have hmem : last ∈ pieces text := hpieces ▸ List.mem_append_right _ List.mem_cons_self
    split at h
    · cases h
    · rw [List.mem_singleton.mp h]
      exact notMem_of_mem_pieces hmem

theorem endsInLineBreak_iff (h : pieces text = ls ++ [last]) :
    endsInLineBreak text = true ↔ ls ≠ [] ∧ last = [] := by
  have hlast : '\n' ∉ last :=
    notMem_of_mem_pieces (h ▸ List.mem_append_right _ List.mem_cons_self)
  have htext := joinLines_pieces text
  rw [h] at htext
  rcases eq_or_ne ls [] with rfl | hne
  · rw [← htext, endsInLineBreak, beq_iff_eq]
    simp only [List.nil_append, joinLines, ne_eq, not_true_eq_false, false_and, iff_false]
    exact fun hget => hlast (List.mem_of_getLast? hget)
  · rw [joinLines_append_singleton hne] at htext
    rw [← htext, endsInLineBreak, beq_iff_eq]
    rcases eq_or_ne last [] with rfl | hlast'
    · simp [hne]
    · have hget : (joinLines ls ++ '\n' :: last).getLast? = last.getLast? := by
        rw [List.append_cons, List.getLast?_append, List.getLast?_eq_some_getLast hlast',
          Option.some_or]
      rw [hget]
      simp only [hne, hlast', ne_eq, not_false_eq_true, and_false, iff_false]
      exact fun hget => hlast (List.mem_of_getLast? hget)

/-- A text without line breaks is one line. -/
theorem lines_of_notMem (h : '\n' ∉ line) (hne : line ≠ []) : lines line = [line] := by
  have hpieces : pieces line = [] ++ [line] := pieces_of_notMem h
  rw [lines_eq_of_pieces hpieces, if_neg hne]
  rfl

/-- Lines that are put together are read back. An empty last line is not seen, since it cannot be
told from a line break at the end. -/
theorem lines_joinLines_append_singleton (h : ∀ l ∈ ls, IsLine l) (hlast : IsLine last) :
    lines (joinLines (ls ++ [last])) = ls ++ if last = [] then [] else [last] := by
  have hpieces : pieces (joinLines (ls ++ [last])) = ls ++ [last] := by
    refine pieces_joinLines (fun l hl => ?_) (by simp)
    rcases List.mem_append.mp hl with hl | hl
    · exact (h l hl).notMem
    · rw [List.mem_singleton.mp hl]
      exact hlast.notMem
  rw [lines_eq_of_pieces hpieces, map_dropReturn_of_getLast?_ne fun l hl => (h l hl).getLast?]

/-- A text without a `\r` at the end of a line is made of its lines and the line break it may end
in. -/
theorem joinLines_lines_append (h : ∀ l ∈ pieces text, l.getLast? ≠ some '\r') :
    joinLines (lines text) ++ (if endsInLineBreak text then ['\n'] else []) = text := by
  obtain ⟨ls, last, hpieces⟩ := exists_pieces_eq text
  have hkept : ls.map dropReturn = ls :=
    map_dropReturn_of_getLast?_ne fun l hl => h l (hpieces ▸ List.mem_append_left _ hl)
  have htext := joinLines_pieces text
  rw [hpieces] at htext
  rw [lines_eq_of_pieces hpieces, hkept]
  rcases eq_or_ne last [] with rfl | hlast
  · rcases eq_or_ne ls [] with rfl | hne
    · simpa [endsInLineBreak_iff hpieces, joinLines] using htext
    · rw [joinLines_append_singleton hne] at htext
      simpa [endsInLineBreak_iff hpieces, hne] using htext
  · simpa [endsInLineBreak_iff hpieces, hlast] using htext

end QueryAssist.Text
