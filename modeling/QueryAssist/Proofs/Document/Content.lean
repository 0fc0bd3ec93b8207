import QueryAssist.Proofs.Document.Layout

/-!
# What the layout leaves alone

The layout moves pieces of lines, puts blanks before them and takes blanks away at their ends. A
reading of lines that does not look at such blanks, and can be done on both sides of a pipe on its
own, gives the same for the result as for the text. The characters that are no blanks are read off
in this way, and so are the literals.

## Main definitions

* `Text.visible` — the characters of a text that are no blanks
* `Literal.closedLiterals` — the literals of a line that are closed on it
* `Layout.IgnoresLayout` — what a reading of lines must satisfy

## Main results

* `ignoresLayout_visible`, `ignoresLayout_closedLiterals` — the two readings satisfy it
* `IgnoresLayout.flatMap_layoutLine` — the lines that a line is turned into read like the line
* `alignPipes_keeps_visible_and_literals` — the layout of a text loses and adds nothing
-/

namespace QueryAssist

open Text

variable {a b rest line head piece indent text opened : List Char} {ls pieces : List (List Char)}
  {c : Char} {d : Nat}

/-! ### Visible characters -/

/-- The characters of a text that are no blanks. -/
def Text.visible (text : List Char) : List Char := text.filter fun c => !isBlank c

theorem Text.visible_append (a b : List Char) : visible (a ++ b) = visible a ++ visible b :=
  List.filter_append a b

theorem Text.visible_of_blank (h : IsBlankText b) : visible b = [] := by
  rw [visible, List.filter_eq_nil_iff]
  intro c hc
  simp [h c hc]

theorem Text.visible_dropReturn (line : List Char) : visible (dropReturn line) = visible line := by
  obtain ⟨b, hb, hline⟩ := exists_eq_dropReturn_append line
  conv_rhs => rw [hline, visible_append, visible_of_blank hb, List.append_nil]

/-- Line breaks are not visible. -/
theorem Text.visible_joinLines (ls : List (List Char)) :
    visible (joinLines ls) = ls.flatMap visible := by
  have hbreak : IsBlankText ['\n'] := by decide
  induction ls with
  | nil => rfl
  | cons line ls ih =>
    cases ls with
    | nil => rw [joinLines, List.flatMap_singleton]
    | cons next rest =>
      rw [joinLines, List.append_cons, visible_append, visible_append, visible_of_blank hbreak, ih,
        List.append_nil]
      exact List.flatMap_cons.symm

/-- What is visible of a text stands in its lines. -/
theorem Text.flatMap_visible_lines (text : List Char) :
    (lines text).flatMap visible = visible text := by
  obtain ⟨ls, last, hpieces⟩ := exists_pieces_eq text
  have hlast : (if last = [] then [] else [last]).flatMap visible = visible last := by
    split
    · rename_i hnil
      rw [hnil]
      rfl
    · exact List.flatMap_singleton visible last
  have htext := joinLines_pieces text
  rw [hpieces] at htext
  rw [lines_eq_of_pieces hpieces, ← htext, visible_joinLines, List.flatMap_append,
    List.flatMap_append, hlast, List.flatMap_map, List.flatMap_singleton]
  simp only [visible_dropReturn]

/-! ### Closed literals -/

namespace Literal

variable {s s' : State}

/-- Whether the scan stands in a literal. -/
def State.isInside : State → Bool
  | .outside => false
  | .inside _ _ => true

/-- The literals, with their quotes, that are closed in a piece of a line. The scan enters the piece
in state `s`; of a literal that is open then `opened` has been read, latest character first. What
follows the beginning of a comment is not looked at. -/
def closedFrom : State → (opened : List Char) → List Char → List (List Char)
  | _, _, [] => []
  | s, opened, c :: rest =>
    if s.opensComment c rest then []
    else
      match s.next c with
      | .inside quote escaped => closedFrom (.inside quote escaped) (c :: opened) rest
      | .outside =>
        if s.isInside then (c :: opened).reverse :: closedFrom .outside [] rest
        else closedFrom .outside [] rest

/-- The literals of a line that are closed on it, with their quotes, from left to right. -/
def closedLiterals (line : List Char) : List (List Char) := closedFrom .outside [] line

theorem closedFrom_cons_of_opensComment (h : s.opensComment c rest = true) (opened : List Char) :
    closedFrom s opened (c :: rest) = [] := by
  rw [closedFrom, if_pos h]

/-- What is closed behind a character depends on the state behind it. -/
theorem closedFrom_cons (h : s.opensComment c rest = false) (opened : List Char) :
    closedFrom s opened (c :: rest) =
      match s.next c with
      | .inside quote escaped => closedFrom (.inside quote escaped) (c :: opened) rest
      | .outside =>
        if s.isInside then (c :: opened).reverse :: closedFrom .outside [] rest
        else closedFrom .outside [] rest := by
  rw [closedFrom, h, if_neg Bool.false_ne_true]

/-- No blank closes a literal. -/
theorem closedFrom_of_blank (hs : s.IsProper) (hb : IsBlankText b) (opened : List Char) :
    closedFrom s opened b = [] := by
  induction b generalizing s opened with
  | nil => rfl
  | cons c b ih =>
    obtain ⟨hc, hb⟩ := isBlankText_cons.mp hb
    have hcomment : s.opensComment c b = false :=
      s.opensComment_of_ne (ne_of_isBlank hc isBlank_slash) b
    have hsingle : c ≠ '\'' := ne_of_isBlank hc (by decide)
    have hdouble : c ≠ '"' := ne_of_isBlank hc (by decide)
    have hnext := hs.next c
    rw [closedFrom_cons hcomment]
    cases hstate : s.next c with
    | inside quote escaped =>
      rw [hstate] at hnext
      exact ih hnext hb _
    | outside =>
      -- the scan comes from outside, since only a quote could have closed a literal
      match s, hs with
      | .outside, _ => exact ih State.isProper_outside hb _
      | .inside _ true, _ => cases hstate
      | .inside quote false, hquote =>
        have hne : c ≠ quote := by rcases hquote with rfl | rfl <;> assumption
        simp only [State.next, if_neg hne] at hstate
        split at hstate <;> cases hstate

/-- Blanks at the end of a line close no literal. -/
theorem closedFrom_append_blank (hs : s.IsProper) (hb : IsBlankText b) (opened a : List Char) :
    closedFrom s opened (a ++ b) = closedFrom s opened a := by
  induction a generalizing s opened with
  | nil => exact closedFrom_of_blank hs hb opened
  | cons c a ih =>
    have hadd := s.opensComment_append (head?_ne_slash_of_blank hb) c a
    have hnext := hs.next c
    cases h : s.opensComment c a with
    | true =>
      rw [List.cons_append, closedFrom_cons_of_opensComment (hadd.trans h),
        closedFrom_cons_of_opensComment h]
    | false =>
      rw [List.cons_append, closedFrom_cons (hadd.trans h), closedFrom_cons h]
      cases hstate : s.next c with
      | inside quote escaped =>
        rw [hstate] at hnext
        exact ih hnext _
      | outside =>
        dsimp only
        rw [ih State.isProper_outside]

/-- Where a scan stands outside of literals and comments, it can be begun anew. -/
theorem closedFrom_append (ha : stateAfter s a = some .outside) (hb : b.head? ≠ some '/')
    (hopened : s = .outside → opened = []) :
    closedFrom s opened (a ++ b) = closedFrom s opened a ++ closedLiterals b := by
  induction a generalizing s opened with
  | nil =>
    obtain rfl := Option.some.inj ha
    rw [hopened rfl]
    rfl
  | cons c a ih =>
    cases h : s.opensComment c a with
    | true =>
      rw [stateAfter, if_pos h] at ha
      cases ha
    | false =>
      rw [stateAfter_cons h] at ha
      rw [List.cons_append, closedFrom_cons ((s.opensComment_append hb c a).trans h),
        closedFrom_cons h]
      cases hstate : s.next c with
      | inside quote escaped =>
        rw [hstate] at ha
        exact ih ha (fun h => by cases h)
      | outside =>
        rw [hstate] at ha
        dsimp only
        rw [ih ha fun _ => rfl]
        split
        · rfl
        · rfl

/-- A character that neither begins a literal nor a comment makes no difference. -/
theorem closedLiterals_cons (h : State.next .outside c = .outside) (hslash : c ≠ '/')
    (line : List Char) : closedLiterals (c :: line) = closedLiterals line := by
  rw [closedLiterals, closedFrom_cons (State.opensComment_of_ne _ hslash _), h]
  rfl

theorem closedLiterals_blank_append (hb : IsBlankText b) (line : List Char) :
    closedLiterals (b ++ line) = closedLiterals line := by
  induction b with
  | nil => rfl
  | cons c b ih =>
    obtain ⟨hc, hb⟩ := isBlankText_cons.mp hb
    have hnext := State.next_outside_of_isBlank hc
    rw [List.cons_append, closedLiterals_cons hnext (ne_of_isBlank hc isBlank_slash), ih hb]

end Literal

/-! ### Readings of lines -/

namespace Layout

open Literal

variable {α : Type*} {f : List Char → List α} {s : State}

/-- A reading of lines does not look at blanks at the ends of a line and behind a pipe, and can be
done on both sides of a pipe on its own if the pipe is outside of literals and comments. -/
structure IgnoresLayout (f : List Char → List α) : Prop where
  /-- Blanks at the end of a line do not matter. -/
  append_blank {a b : List Char} : IsBlankText b → f (a ++ b) = f a
  /-- Blanks at the beginning of a line do not matter. -/
  blank_append {a b : List Char} : IsBlankText b → f (b ++ a) = f a
  /-- Blanks behind a pipe do not matter. -/
  bar_blank_append {a b : List Char} : IsBlankText b → f ('|' :: (b ++ a)) = f ('|' :: a)
  /-- A line can be cut before a pipe. -/
  append_bar {a b : List Char} :
    stateAfter .outside a = some .outside → f (a ++ '|' :: b) = f a ++ f ('|' :: b)

theorem ignoresLayout_visible : IgnoresLayout visible where
  append_blank hb := by rw [visible_append, visible_of_blank hb, List.append_nil]
  blank_append hb := by rw [visible_append, visible_of_blank hb, List.nil_append]
  bar_blank_append hb := by
    rw [← List.singleton_append, visible_append, visible_append, visible_of_blank hb,
      List.nil_append, ← visible_append, List.singleton_append]
  append_bar _ := visible_append _ _

theorem ignoresLayout_closedLiterals : IgnoresLayout closedLiterals where
  append_blank hb := closedFrom_append_blank Literal.State.isProper_outside hb [] _
  blank_append hb := closedLiterals_blank_append hb _
  bar_blank_append hb := by
    rw [closedLiterals_cons rfl (by decide), closedLiterals_cons rfl (by decide),
      closedLiterals_blank_append hb]
  append_bar ha := closedFrom_append ha (by simp) fun _ => rfl

namespace IgnoresLayout

/-- Nothing is read off a blank line. -/
theorem eq_nil_of_blank (hf : IgnoresLayout f) (hb : IsBlankText b) : f b = [] := by
  have hnil : f [] = [] := by
    have hbar := hf.append_bar (a := []) (b := []) rfl
    exact List.self_eq_append_left.mp hbar
  rw [← List.nil_append b, hf.append_blank hb, hnil]

theorem trimEnd (hf : IgnoresLayout f) (line : List Char) : f (Text.trimEnd line) = f line := by
  obtain ⟨b, hb, hline⟩ := exists_eq_trimEnd_append line
  conv_rhs => rw [hline, hf.append_blank hb]

theorem bar_trim (hf : IgnoresLayout f) (piece : List Char) :
    f ('|' :: trim piece) = f ('|' :: piece) := by
  obtain ⟨x, y, hx, hy, hpiece⟩ := exists_eq_append_trim_append piece
  conv_rhs => rw [hpiece, ← List.cons_append, hf.append_blank hy, hf.bar_blank_append hx]

/-- A piece that is put on a line of its own is read as it stood behind the pipe. -/
theorem pipeLine (hf : IgnoresLayout f) (hindent : IsBlankText indent) (piece : List Char) :
    f (Layout.pipeLine indent piece) = f ('|' :: piece) := by
  obtain ⟨rest, hline, hrest⟩ := exists_pipeLine_eq indent piece
  rw [hline, hf.blank_append hindent, ← hf.bar_trim rest, hrest, hf.bar_trim]

theorem flatMap_map_pipeLine (hf : IgnoresLayout f) (hindent : IsBlankText indent)
    (pieces : List (List Char)) :
    (pieces.map (Layout.pipeLine indent)).flatMap f =
      pieces.flatMap fun piece => f ('|' :: piece) := by
  rw [List.flatMap_map]
  simp only [hf.pipeLine hindent]

/-- Behind a pipe the pieces of a line are read one after the other. -/
theorem bar_of_cuts (hf : IgnoresLayout f) (hcuts : Cuts line d head pieces) :
    f ('|' :: line) = f ('|' :: head) ++ pieces.flatMap fun piece => f ('|' :: piece) := by
  induction hcuts with
  | whole => simp
  | @bar a b head depth pieces hstate _ _ _ ih =>
    have hbar : stateAfter .outside ('|' :: a) = some .outside := by
      rw [stateAfter_cons (State.opensComment_of_ne _ (by decide) a)]
      exact hstate
    rw [← List.cons_append, hf.append_bar hbar, ih, List.flatMap_cons]

/-- The pieces of a line are read one after the other, each behind its pipe. -/
theorem of_cuts (hf : IgnoresLayout f) (hcuts : Cuts line d head pieces) :
    f line = f head ++ pieces.flatMap fun piece => f ('|' :: piece) := by
  cases hcuts with
  | whole => simp
  | bar hstate _ _ hb => rw [hf.append_bar hstate, hf.bar_of_cuts hb, List.flatMap_cons]

/-- The lines that a line is turned into read like the line. -/
theorem flatMap_layoutLine (hf : IgnoresLayout f) (hindent : IsBlankText s.indent)
    (line : List Char) : (layoutLine s line).2.flatMap f = f line := by
  rcases layoutLine_cases s line with
    ⟨_, hline⟩ | ⟨_, _, d, head, pieces, hcuts, ⟨hhead, hline⟩ | ⟨_, hline⟩⟩
  · rw [hline, List.flatMap_singleton, hf.trimEnd]
  · -- the blanks before the first pipe are dropped
    rw [hline, hf.flatMap_map_pipeLine hindent, hf.of_cuts hcuts, hf.eq_nil_of_blank hhead,
      List.nil_append]
  · rw [hline, List.flatMap_cons, hf.trimEnd,
      hf.flatMap_map_pipeLine (isBlankText_leadingBlanks line), hf.of_cuts hcuts]

theorem flatMap_layoutLines (hf : IgnoresLayout f) (hindent : IsBlankText s.indent)
    (ls : List (List Char)) : (layoutLines s ls).flatMap f = ls.flatMap f := by
  induction ls generalizing s with
  | nil => rfl
  | cons line ls ih =>
    rw [layoutLines, List.flatMap_append, hf.flatMap_layoutLine hindent,
      ih (isBlankText_indent_layoutLine hindent line), List.flatMap_cons]

/-- The lines of the result read like the lines of the text. -/
theorem flatMap_lines_alignPipes (hf : IgnoresLayout f) (text : List Char) :
    (lines (alignPipes text)).flatMap f = (lines text).flatMap f := by
  have hlines := hf.flatMap_layoutLines (s := {}) isBlankText_nil (lines text)
  rcases lines_alignPipes text with h | h
  · rw [h, hlines]
  · -- nothing is read off an empty last line
    rw [← hlines, ← h, List.flatMap_append, List.flatMap_singleton,
      hf.eq_nil_of_blank isBlankText_nil, List.append_nil]

end IgnoresLayout

/-- The layout changes nothing but blanks: the characters of a text that are no blanks stay, in
their order, and so do the literals that are closed on their line, to the letter. -/
theorem alignPipes_keeps_visible_and_literals (text : List Char) :
    visible (alignPipes text) = visible text ∧
      (lines (alignPipes text)).flatMap closedLiterals = (lines text).flatMap closedLiterals := by
  constructor
  · rw [← flatMap_visible_lines, ← flatMap_visible_lines]
    exact ignoresLayout_visible.flatMap_lines_alignPipes text
  · exact ignoresLayout_closedLiterals.flatMap_lines_alignPipes text

end Layout

end QueryAssist
