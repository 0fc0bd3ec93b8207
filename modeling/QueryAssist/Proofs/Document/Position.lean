import Mathlib.Data.List.DropRight
import QueryAssist.Proofs.Document.Cursor
import QueryAssist.Proofs.Text.Returns

/-!
# Positions and the places they stand for

Locating a position cuts a text at it. What is before the cursor, its line and its column are said
here in terms of the text, and they determine the cursor. A place in a text has the position that
counts the line breaks before it and the characters behind the last of them, and locating this
position finds the place again. The only places that are not found are those behind a `\r` at the
end of its line, since such a `\r` is part of the line break.

## Main definitions

* `Text.lastLine` — what stands behind the last line break of a text
* `Position.atEndOf` — the position of the end of a text
* `Cursor.IsAt` — a cursor is at a position of a text
* `Cursor.EndsLineInReturn` — a place is behind a `\r` that ends its line

## Main results

* `isAt_locate`, `IsAt.unique` — locating a position finds the one cursor that is at it
* `eq_of_atEndOf_eq` — different places of a text have different positions
* `locate_inverts_atEndOf` — locating the position of a place finds the place
-/

namespace QueryAssist

open Text

variable {text a b q r before rest : List Char} {n : Nat} {p : Position} {cursor cursor' : Cursor}

namespace Text

/-- What stands behind the last line break of a text. -/
def lastLine (text : List Char) : List Char := text.rtakeWhile (· != '\n')

theorem notMem_lastLine (text : List Char) : '\n' ∉ lastLine text := by
  intro hmem
  simpa using List.mem_rtakeWhile_imp hmem

/-- What is added without a line break is added to the last line. -/
theorem lastLine_append (h : '\n' ∉ b) (a : List Char) : lastLine (a ++ b) = lastLine a ++ b := by
  have hline : ∀ c ∈ b.reverse, (c != '\n') = true := by
    intro c hc
    rw [bne_iff_ne]
    rintro rfl
    exact h (List.mem_reverse.mp hc)
  rw [lastLine, List.rtakeWhile, List.reverse_append, List.takeWhile_append_of_pos hline,
    List.reverse_append, List.reverse_reverse, lastLine, List.rtakeWhile]

/-- A text is its last line, or a line break stands before that. -/
theorem eq_lastLine_or_exists (text : List Char) :
    text = lastLine text ∨ ∃ a, text = a ++ '\n' :: lastLine text := by
  have hsplit : text.rdropWhile (· != '\n') ++ lastLine text = text :=
    List.rdropWhile_append_rtakeWhile
  rcases List.eq_nil_or_concat' (text.rdropWhile (· != '\n')) with hnil | ⟨a, c, hconcat⟩
  · rw [hnil, List.nil_append] at hsplit
    exact Or.inl hsplit.symm
  · have hlast := List.rdropWhile_last_not (· != '\n') text (by simp [hconcat])
    obtain rfl : c = '\n' := by simpa [hconcat] using hlast
    rw [hconcat, List.append_assoc, List.singleton_append] at hsplit
    exact Or.inr ⟨a, hsplit.symm⟩

theorem getLast?_pieces (text : List Char) : (pieces text).getLast? = some (lastLine text) := by
  have hlast := pieces_of_notMem (notMem_lastLine text)
  rcases eq_lastLine_or_exists text with htext | ⟨a, htext⟩
  · conv_lhs => rw [htext, hlast]
    rfl
  · conv_lhs => rw [htext, pieces_append_break, hlast]
    exact List.getLast?_concat

theorem head?_pieces (text : List Char) :
    (pieces text).head? = some (text.takeWhile (· != '\n')) := by
  induction text with
  | nil => rfl
  | cons c text ih =>
    rw [pieces, piecesBetween]
    by_cases hc : c = '\n'
    · simp [hc]
    · rw [if_neg hc, List.takeWhile_cons_of_pos (by simpa using hc)]
      cases hpieces : piecesBetween '\n' text with
      | nil => exact (pieces_ne_nil text hpieces).elim
      | cons piece more =>
        rw [pieces, hpieces, List.head?_cons, Option.some.injEq] at ih
        rw [List.head?_cons, ih]

/-- A character that is added to the first piece leaves the others. -/
theorem getElem?_pieces_cons_succ {c : Char} (hc : c ≠ '\n') (text : List Char) (n : Nat) :
    (pieces (c :: text))[n + 1]? = (pieces text)[n + 1]? := by
  rw [pieces, piecesBetween, if_neg hc, pieces]
  cases hpieces : piecesBetween '\n' text with
  | nil => exact (pieces_ne_nil text hpieces).elim
  | cons piece more => rfl

/-- The piece around a place is the last line before the place with all that follows up to the next
line break. -/
theorem getElem?_pieces_count (before rest : List Char) :
    (pieces (before ++ rest))[before.count '\n']? =
      some (lastLine before ++ rest.takeWhile (· != '\n')) := by
  have hbreak := notMem_lastLine before
  have hfirst : (pieces (lastLine before ++ rest))[0]? =
      some (lastLine before ++ rest.takeWhile (· != '\n')) := by
    have hline : ∀ c ∈ lastLine before, (c != '\n') = true := fun c hc =>
      List.mem_rtakeWhile_imp (p := (· != '\n')) hc
    rw [← List.head?_eq_getElem?, head?_pieces, List.takeWhile_append_of_pos hline]
  rcases eq_lastLine_or_exists before with hbefore | ⟨a, hbefore⟩
  · have hcount : before.count '\n' = 0 := by
      rw [hbefore]
      exact List.count_eq_zero.mpr hbreak
    rw [hcount]
    conv_lhs => rw [hbefore]
    exact hfirst
  · -- the pieces before the last line break are passed over
    have hcount : before.count '\n' = (pieces a).length := by
      rw [length_pieces, hbefore, List.count_append, List.count_cons_self,
        List.count_eq_zero.mpr hbreak]
    have hpieces : pieces (before ++ rest) = pieces a ++ pieces (lastLine before ++ rest) := by
      conv_lhs => rw [hbefore, List.append_assoc, List.cons_append, pieces_append_break]
    rw [hcount, hpieces, List.getElem?_append_right le_rfl, Nat.sub_self, hfirst]

theorem getLast?_lastLine_eq_return :
    (lastLine before).getLast? = some '\r' ↔ before.getLast? = some '\r' := by
  rcases eq_lastLine_or_exists before with hbefore | ⟨a, hbefore⟩
  · rw [← hbefore]
  · conv_rhs => rw [hbefore, List.getLast?_append, List.getLast?_cons]
    cases (lastLine before).getLast? <;> simp

theorem dropReturn_isPrefix (line : List Char) : dropReturn line <+: line := by
  obtain ⟨b, -, hline⟩ := exists_eq_dropReturn_append line
  exact ⟨b, hline.symm⟩

/-- What a line begins with is still there without the `\r` at the end of the line, unless it is the
whole line and ends in the `\r`. -/
theorem length_le_length_dropReturn_append_iff :
    q.length ≤ (dropReturn (q ++ r)).length ↔ ¬ (q.getLast? = some '\r' ∧ r = []) := by
  by_cases hlast : (q ++ r).getLast? = some '\r'
  · obtain ⟨l, hl⟩ := List.getLast?_eq_some_iff.mp hlast
    have hlength := congrArg List.length hl
    rw [List.length_append, List.length_append, List.length_singleton] at hlength
    rw [hl, dropReturn_append_return]
    rcases eq_or_ne r [] with rfl | hr
    · rw [List.append_nil] at hlast
      rw [List.length_nil] at hlength
      simp only [hlast, and_self, not_true_eq_false, iff_false]
      omega
    · have hpos := List.length_pos_iff.mpr hr
      simp only [hr, and_false, not_false_eq_true, iff_true]
      omega
  · rw [dropReturn_of_getLast?_ne hlast]
    have hne : ¬ (q.getLast? = some '\r' ∧ r = []) := by
      rintro ⟨hq, rfl⟩
      rw [List.append_nil] at hlast
      exact hlast hq
    simp [hne]

end Text

/-- The position of the end of a text: behind all its line breaks, and behind the characters that
follow the last of them. -/
def Position.atEndOf (text : List Char) : Position := ⟨text.count '\n', (lastLine text).length⟩

/-- Two beginnings of a text that end at the same position are the same. -/
theorem Position.eq_of_atEndOf_eq (ha : a <+: text) (hb : b <+: text) (h : atEndOf a = atEndOf b) :
    a = b := by
  -- the longer one goes on without a line break, and so with nothing
  have hshorter : ∀ {a b : List Char}, a <+: b → atEndOf a = atEndOf b → a = b := by
    rintro a _ ⟨x, rfl⟩ h
    obtain ⟨hcount, hlength⟩ := Position.mk.inj h
    rw [List.count_append] at hcount
    have hx : '\n' ∉ x := List.count_eq_zero.mp (by omega)
    rw [lastLine_append hx, List.length_append] at hlength
    obtain rfl : x = [] := List.eq_nil_of_length_eq_zero (by omega)
    exact (List.append_nil a).symm
  rcases List.prefix_or_prefix_of_prefix ha hb with hab | hba
  · exact hshorter hab h
  · exact (hshorter hba h.symm).symm

namespace Cursor

/-- The place between `before` and `rest` is behind a `\r` that is the last of its line. -/
def EndsLineInReturn (before rest : List Char) : Prop :=
  before.getLast? = some '\r' ∧ (rest = [] ∨ rest.head? = some '\n')

instance : Decidable (EndsLineInReturn before rest) :=
  inferInstanceAs (Decidable (_ ∧ (_ ∨ _)))

/-- The cursor is at the position `p` of a text. A line beyond the end of the text is empty and
stands at its end, and a column beyond the end of a line stands for the end of the line. -/
structure IsAt (text : List Char) (p : Position) (cursor : Cursor) : Prop where
  /-- The text begins with what is before the cursor. -/
  before_isPrefix : cursor.before <+: text
  /-- As many lines have ended before the cursor as the position has lines before it. -/
  count_before : cursor.before.count '\n' = min p.line (text.count '\n')
  /-- On a line of the text, what is before the cursor ends in the part of the line before it. -/
  lastLine_before : p.line ≤ text.count '\n' → lastLine cursor.before = cursor.lineStart
  /-- Beyond the lines of the text, all of the text is before the cursor. -/
  before_eq : text.count '\n' < p.line → cursor.before = text
  /-- The line is a piece between line breaks, without one `\r` at its end. -/
  line_eq : cursor.line = ((pieces text)[p.line]?.map dropReturn).getD []
  /-- The line begins with the part before the cursor. -/
  lineStart_isPrefix : cursor.lineStart <+: cursor.line
  /-- That part has as many characters as the cursor has columns before it. -/
  length_lineStart : cursor.lineStart.length = cursor.column
  /-- These are the columns before the position, as far as the line goes. -/
  column_eq : cursor.column = min p.column cursor.line.length

theorem IsAt.lineStart_isSuffix (h : IsAt text p cursor) : cursor.lineStart <:+ cursor.before := by
  rcases Nat.lt_or_ge (text.count '\n') p.line with hlt | hle
  · -- the line is empty
    have hnone : (pieces text)[p.line]? = none := by
      rw [List.getElem?_eq_none_iff, length_pieces]
      exact hlt
    have hline := h.line_eq
    rw [hnone, Option.map_none, Option.getD_none] at hline
    have hnil := List.prefix_nil.mp (hline ▸ h.lineStart_isPrefix)
    rw [hnil]
    exact List.nil_suffix
  · rw [← h.lastLine_before hle]
    exact List.rtakeWhile_suffix _ _

/-- At most one cursor is at a position. -/
theorem IsAt.unique (h : IsAt text p cursor) (h' : IsAt text p cursor') : cursor = cursor' := by
  have hline : cursor.line = cursor'.line := h.line_eq.trans h'.line_eq.symm
  have hcolumn : cursor.column = cursor'.column := by
    rw [h.column_eq, h'.column_eq, hline]
  have hlineStart : cursor.lineStart = cursor'.lineStart := by
    rw [List.prefix_iff_eq_take.mp h.lineStart_isPrefix,
      List.prefix_iff_eq_take.mp h'.lineStart_isPrefix, h.length_lineStart, h'.length_lineStart,
      hline, hcolumn]
  have hbefore : cursor.before = cursor'.before := by
    rcases Nat.lt_or_ge (text.count '\n') p.line with hlt | hle
    · rw [h.before_eq hlt, h'.before_eq hlt]
    · refine Position.eq_of_atEndOf_eq h.before_isPrefix h'.before_isPrefix ?_
      rw [Position.atEndOf, Position.atEndOf, h.count_before, h'.count_before,
        h.lastLine_before hle, h'.lastLine_before hle, hlineStart]
  cases cursor
  cases cursor'
  congr

/-! ### Locating -/

/-- Stepping over `n` lines cuts the text behind their line breaks, or at its end if there are not
as many. -/
theorem exists_skipLines_eq (n : Nat) (passed text : List Char) :
    ∃ a b, text = a ++ b ∧ skipLines n passed text = (a.reverse ++ passed, b) ∧
      a.count '\n' = min n (text.count '\n') ∧
      b.takeWhile (· != '\n') = (pieces text)[n]?.getD [] ∧ (text.count '\n' < n → b = []) := by
  induction text generalizing n passed with
  | nil =>
    refine ⟨[], [], rfl, rfl, by simp, ?_, fun _ => rfl⟩
    cases n <;> rfl
  | cons c text ih =>
    cases n with
    | zero =>
      refine ⟨[], c :: text, rfl, rfl, by simp, ?_, fun h => (Nat.not_lt_zero _ h).elim⟩
      rw [← List.head?_eq_getElem?, head?_pieces, Option.getD_some]
    | succ n =>
      by_cases hc : c = '\n'
      · subst hc
        obtain ⟨a, b, rfl, hskip, hcount, hline, hend⟩ := ih n ('\n' :: passed)
        refine ⟨'\n' :: a, b, rfl, ?_, ?_, ?_, fun h => hend ?_⟩
        · rw [skipLines_break, hskip, List.reverse_cons, List.append_assoc, List.singleton_append]
        · rw [List.count_cons_self, List.count_cons_self, hcount, Nat.add_min_add_right]
        · have hpieces : pieces ('\n' :: (a ++ b)) = [] :: pieces (a ++ b) := if_pos rfl
          rw [hline, hpieces, List.getElem?_cons_succ]
        · rw [List.count_cons_self] at h
          exact Nat.lt_of_succ_lt_succ h
      · obtain ⟨a, b, rfl, hskip, hcount, hline, hend⟩ := ih (n + 1) (c :: passed)
        refine ⟨c :: a, b, rfl, ?_, ?_, ?_, fun h => hend ?_⟩
        · rw [skipLines_cons_of_ne hc, hskip, List.reverse_cons, List.append_assoc,
            List.singleton_append]
        · rw [List.count_cons_of_ne hc, List.count_cons_of_ne hc, hcount]
        · rw [hline, getElem?_pieces_cons_succ hc]
        · rwa [List.count_cons_of_ne hc] at h

/-- Locating a position finds a cursor that is at it. -/
theorem isAt_locate (text : List Char) (p : Position) : IsAt text p (locate text p) := by
  obtain ⟨a, b, htext, hskip, hcount, hline, hend⟩ := exists_skipLines_eq p.line [] text
  have hbreak := break_notMem_lineStart text p
  have hbefore : (locate text p).before = a ++ (locate text p).lineStart := by
    simp only [locate, hskip, List.append_nil, List.reverse_reverse]
  have hlocated : (locate text p).line = dropReturn (b.takeWhile (· != '\n')) := by
    rw [locate, hskip]
  have hstart : (locate text p).lineStart = (locate text p).line.take p.column := rfl
  have hcolumn : (locate text p).column = (locate text p).lineStart.length := rfl
  have hprefix : (locate text p).lineStart <+: b := by
    rw [hstart, hlocated]
    exact (List.take_prefix _ _).trans ((dropReturn_isPrefix _).trans (List.takeWhile_prefix _))
  constructor
  case before_isPrefix =>
    obtain ⟨later, hlater⟩ := hprefix
    refine ⟨later, ?_⟩
    rw [hbefore, List.append_assoc, hlater, ← htext]
  case count_before =>
    rw [hbefore, List.count_append, List.count_eq_zero.mpr hbreak, hcount, Nat.add_zero]
  case lastLine_before =>
    intro hle
    exact Option.some.inj ((getLast?_pieces _).symm.trans (getLast?_pieces_before hle))
  case before_eq =>
    intro hlt
    rw [hend hlt] at hprefix htext
    rw [hbefore, List.prefix_nil.mp hprefix, htext]
  case line_eq =>
    rw [hlocated, hline]
    cases (pieces text)[p.line]? <;> rfl
  case lineStart_isPrefix => exact List.take_prefix _ _
  case length_lineStart => exact hcolumn.symm
  case column_eq => rw [hcolumn, hstart, List.length_take]

/-! ### The position of a place -/

/-- At the position of a place there is the place, unless a `\r` ends the line there. -/
theorem IsAt.before_eq_iff (h : IsAt (before ++ rest) (.atEndOf before) cursor) :
    cursor.before = before ↔ ¬ EndsLineInReturn before rest := by
  have hle : before.count '\n' ≤ (before ++ rest).count '\n' := by
    rw [List.count_append]
    exact Nat.le_add_right _ _
  have hcount : cursor.before.count '\n' = before.count '\n' := by
    rw [h.count_before]
    exact min_eq_left hle
  have hline : cursor.line =
      dropReturn (lastLine before ++ rest.takeWhile (· != '\n')) := by
    rw [h.line_eq, Position.atEndOf, getElem?_pieces_count, Option.map_some, Option.getD_some]
  have hlength : (lastLine cursor.before).length =
      min (lastLine before).length cursor.line.length := by
    rw [h.lastLine_before hle, h.length_lineStart, h.column_eq, Position.atEndOf]
  have hbreak : rest.takeWhile (· != '\n') = [] ↔ rest = [] ∨ rest.head? = some '\n' := by
    cases rest <;> simp
  calc cursor.before = before
    _ ↔ Position.atEndOf cursor.before = .atEndOf before :=
      ⟨congrArg _, Position.eq_of_atEndOf_eq h.before_isPrefix (List.prefix_append _ _)⟩
    _ ↔ (lastLine before).length ≤ cursor.line.length := by
      rw [Position.atEndOf, Position.atEndOf, hcount, hlength, Position.mk.injEq]
      omega
    _ ↔ ¬ EndsLineInReturn before rest := by
      rw [hline, length_le_length_dropReturn_append_iff, getLast?_lastLine_eq_return, hbreak,
        EndsLineInReturn]

/-- Locating is exact and can be inverted. The cursor that is found is the only one at the position,
and what is before it ends in its part of the line. Wherever a text is cut, the position of the cut
is located there, unless the cut is behind a `\r` that ends its line. -/
theorem locate_inverts_atEndOf (text : List Char) :
    (∀ p cursor, IsAt text p cursor ↔ cursor = locate text p) ∧
      (∀ p, (locate text p).lineStart <:+ (locate text p).before) ∧
      ∀ before rest, text = before ++ rest →
        ((locate text (.atEndOf before)).before = before ↔ ¬ EndsLineInReturn before rest) := by
  refine ⟨fun p cursor => ⟨fun h => h.unique (isAt_locate text p), ?_⟩, fun p => ?_, ?_⟩
  · rintro rfl
    exact isAt_locate text p
  · exact (isAt_locate text p).lineStart_isSuffix
  · rintro before rest rfl
    exact (isAt_locate _ _).before_eq_iff

/-- The text is cut behind a `\r` in the middle of a line, which is found, and behind the `\r` of a
line break, which is not. -/
theorem locate_inverts_atEndOf_mixedReturns :
    let text := "é\r\na\rb\r\n".toList
    (text = "é\r\na\r".toList ++ "b\r\n".toList ∧
        (locate text ⟨1, 2⟩).before = "é\r\na\r".toList) ∧
      text = "é\r".toList ++ "\na\rb\r\n".toList ∧ (locate text ⟨0, 2⟩).before ≠ "é\r".toList := by
  intro text
  obtain ⟨-, -, hcut⟩ := locate_inverts_atEndOf text
  have hinside := hcut "é\r\na\r".toList "b\r\n".toList rfl
  have hend := hcut "é\r".toList "\na\rb\r\n".toList rfl
  exact ⟨⟨rfl, hinside.mpr (by decide)⟩, rfl, fun h => hend.mp h (by decide)⟩

end Cursor

end QueryAssist
