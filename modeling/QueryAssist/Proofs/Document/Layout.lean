import QueryAssist.Proofs.Document.Cut
import QueryAssist.Proofs.Text.Lines

/-!
# The layout is settled after one run

A line that the layout has written is left as it is when it is read again, and the state behind it
is the one behind the lines it was made from. So a second run changes nothing.

## Main definitions

* `Layout.Settled` — lines that stay as they are from one state to another

## Main results

* `layoutLine_cases` — the lines that a line is turned into, in terms of its pieces
* `settled_layoutLine` — what one line is turned into is settled
* `lines_alignPipes` — the lines of the result are the lines that were written
* `alignPipes_idempotent` — a second run changes nothing
-/

namespace QueryAssist.Layout

open Text Literal

variable {line head piece indent : List Char} {pieces ls ls' : List (List Char)} {d depth : Nat}
  {s s' s'' : State}

/-! ### What a line is turned into -/

theorem staysWhole_trimEnd (depth : Nat) (line : List Char) :
    staysWhole depth (trimEnd line) = staysWhole depth line := by
  rw [staysWhole, trim_trimEnd, staysWhole]

theorem staysWhole_eq_false_iff :
    staysWhole depth line = false ↔
      ¬ IsBlankText line ∧ ¬ "//".toList <+: trim line ∧ depth = 0 := by
  have htrue : staysWhole depth line = true ↔
      IsBlankText line ∨ "//".toList <+: trim line ∨ 0 < depth := by
    simp only [staysWhole, Bool.or_eq_true, List.isEmpty_iff, trim_eq_nil_iff,
      List.isPrefixOf_iff_prefix, decide_eq_true_eq, gt_iff_lt, or_assoc]
  rw [← Bool.not_eq_true, htrue, not_or, not_or, Nat.pos_iff_ne_zero, not_not]

theorem layoutLine_of_staysWhole (h : staysWhole s.depth line = true) :
    layoutLine s line =
      (⟨(mask line).foldl depthAfter s.depth, s.indent⟩, [trimEnd line]) := by
  rw [layoutLine, if_pos h]

/-- A line that does not stay whole goes on with the statement above if there is nothing before
its first pipe, and begins a statement otherwise. -/
theorem layoutLine_of_cuts (h : staysWhole s.depth line = false) (hcuts : Cuts line d head pieces) :
    layoutLine s line =
      if IsBlankText head then (⟨d, s.indent⟩, pieces.map (pipeLine s.indent))
      else
        (⟨d, leadingBlanks line⟩,
          trimEnd head :: pieces.map (pipeLine (leadingBlanks line))) := by
  have hdepth : s.depth = 0 := (staysWhole_eq_false_iff.mp h).2.2
  rw [layoutLine, h, if_neg Bool.false_ne_true, hdepth, hcuts.cutAtPipes_eq]
  by_cases hhead : IsBlankText head
  · have hempty : (trim head).isEmpty = true := by rw [trim_eq_nil_iff.mpr hhead, List.isEmpty_nil]
    simp [hhead, hempty]
  · have hempty : (trim head).isEmpty = false := by
      rw [List.isEmpty_eq_false_iff]
      exact mt trim_eq_nil_iff.mp hhead
    simp [hhead, hempty]

/-- A line stays whole, goes on with the statement above, or begins a statement. -/
theorem layoutLine_cases (s : State) (line : List Char) :
    (staysWhole s.depth line = true ∧
      layoutLine s line = (⟨(mask line).foldl depthAfter s.depth, s.indent⟩, [trimEnd line])) ∨
    (s.depth = 0 ∧ staysWhole 0 line = false ∧ ∃ d head pieces, Cuts line d head pieces ∧
      ((IsBlankText head ∧ layoutLine s line = (⟨d, s.indent⟩, pieces.map (pipeLine s.indent))) ∨
        (¬ IsBlankText head ∧ layoutLine s line = (⟨d, leadingBlanks line⟩,
          trimEnd head :: pieces.map (pipeLine (leadingBlanks line)))))) := by
  cases hstays : staysWhole s.depth line with
  | true => exact Or.inl ⟨rfl, layoutLine_of_staysWhole hstays⟩
  | false =>
    have hdepth : s.depth = 0 := (staysWhole_eq_false_iff.mp hstays).2.2
    obtain ⟨d, head, pieces, hcuts⟩ := exists_cuts line
    have hline := layoutLine_of_cuts hstays hcuts
    refine Or.inr ⟨hdepth, hdepth ▸ hstays, d, head, pieces, hcuts, ?_⟩
    by_cases hhead : IsBlankText head
    · exact Or.inl ⟨hhead, hline.trans (if_pos hhead)⟩
    · exact Or.inr ⟨hhead, hline.trans (if_neg hhead)⟩

/-! ### Lines that are left as they are -/

theorem foldl_depthAfter_mask_trimEnd (depth : Nat) (line : List Char) :
    (mask (trimEnd line)).foldl depthAfter depth = (mask line).foldl depthAfter depth := by
  rw [← foldl_depthAfter_mask_trim, trim_trimEnd, foldl_depthAfter_mask_trim]

theorem hasTopBar_mask_trimEnd (depth : Nat) (line : List Char) :
    hasTopBar depth (mask (trimEnd line)) = hasTopBar depth (mask line) := by
  rw [← hasTopBar_mask_trim, trim_trimEnd, hasTopBar_mask_trim]

theorem layoutLine_trimEnd_of_staysWhole (h : staysWhole s.depth line = true) :
    layoutLine s (trimEnd line) = ((layoutLine s line).1, [trimEnd line]) := by
  have h' : staysWhole s.depth (trimEnd line) = true := (staysWhole_trimEnd _ _).trans h
  rw [layoutLine_of_staysWhole h', layoutLine_of_staysWhole h, foldl_depthAfter_mask_trimEnd,
    trimEnd_trimEnd]

/-- What stands before the first pipe of a line is no comment if the line is none. -/
theorem Cuts.staysWhole_head (hcuts : Cuts line d head pieces) (hhead : ¬ IsBlankText head)
    (h : staysWhole 0 line = false) : staysWhole 0 head = false := by
  obtain ⟨rest, rfl⟩ := hcuts.head_isPrefix
  -- a comment that begins with the head would begin with the line
  refine staysWhole_eq_false_iff.mpr ⟨hhead, fun hcomment => ?_, rfl⟩
  have hne : trimStart head ≠ [] := mt trimStart_eq_nil_iff.mp hhead
  have hstart : "//".toList <+: trimStart (head ++ rest) := by
    rw [trimStart_append_of_ne_nil hne]
    exact (hcomment.trans (trimEnd_isPrefix _)).trans (List.prefix_append _ _)
  exact (staysWhole_eq_false_iff.mp h).2.1 (isPrefix_trimEnd hstart (by decide))

/-- The beginning of a statement stays as it is. -/
theorem layoutLine_trimEnd_head (hcuts : Cuts line d head pieces) (hhead : ¬ IsBlankText head)
    (h : staysWhole 0 line = false) (indent : List Char) :
    layoutLine ⟨0, indent⟩ (trimEnd head) =
      (⟨(mask head).foldl depthAfter 0, leadingBlanks line⟩, [trimEnd head]) := by
  have hstays : staysWhole 0 (trimEnd head) = false :=
    (staysWhole_trimEnd _ _).trans (hcuts.staysWhole_head hhead h)
  have hwhole : Cuts (trimEnd head) ((mask (trimEnd head)).foldl depthAfter 0) (trimEnd head) [] :=
    .whole ((hasTopBar_mask_trimEnd _ _).trans hcuts.hasTopBar_head)
  have hblank : ¬ IsBlankText (trimEnd head) := (staysWhole_eq_false_iff.mp hstays).1
  have hindent : leadingBlanks (trimEnd head) = leadingBlanks line := by
    obtain ⟨rest, rfl⟩ := hcuts.head_isPrefix
    rw [leadingBlanks_trimEnd hhead, leadingBlanks_append_of_not_blank hhead]
  rw [layoutLine_of_cuts hstays hwhole, if_neg hblank, hindent, foldl_depthAfter_mask_trimEnd,
    trimEnd_trimEnd, List.map_nil]

/-- A line that begins with a pipe has the same piece behind the pipe, up to blanks. -/
theorem exists_pipeLine_eq (indent piece : List Char) :
    ∃ rest, pipeLine indent piece = indent ++ '|' :: rest ∧ trim rest = trim piece := by
  unfold pipeLine
  split
  · rename_i h
    exact ⟨[], rfl, by rw [h]; rfl⟩
  · have hspace : IsBlankText [' '] := by simp [isBlank, inRanges, blankRanges]
    refine ⟨' ' :: trim piece, rfl, ?_⟩
    exact (trim_append_of_blank hspace).trans (trim_trim piece)

theorem pipeLine_congr {rest : List Char} (h : trim rest = trim piece) :
    pipeLine indent rest = pipeLine indent piece := by
  rw [pipeLine, h, pipeLine]

/-- A line that begins with a pipe is neither blank nor a comment. -/
theorem staysWhole_indent_bar (hindent : IsBlankText indent) (rest : List Char) :
    staysWhole 0 (indent ++ '|' :: rest) = false := by
  have hbar : trim (indent ++ '|' :: rest) = trimEnd ('|' :: rest) := by
    rw [trim_append_of_blank hindent]
    rfl
  refine staysWhole_eq_false_iff.mpr ⟨fun hblank => ?_, fun hcomment => ?_, rfl⟩
  · exact hblank.notMem isBlank_bar (by simp)
  · obtain ⟨x, hx⟩ := (hbar ▸ hcomment).trans (trimEnd_isPrefix _)
    cases hx

/-- A line that begins with a pipe stays as it is. -/
theorem layoutLine_pipeLine (hindent : IsBlankText indent)
    (hpiece : hasTopBar 0 (mask piece) = false) :
    layoutLine ⟨0, indent⟩ (pipeLine indent piece) =
      (⟨(mask piece).foldl depthAfter 0, indent⟩, [pipeLine indent piece]) := by
  obtain ⟨rest, hline, hrest⟩ := exists_pipeLine_eq indent piece
  have htop : hasTopBar 0 (mask rest) = false := by
    rw [← hasTopBar_mask_trim, hrest, hasTopBar_mask_trim, hpiece]
  have hdepth : (mask rest).foldl depthAfter 0 = (mask piece).foldl depthAfter 0 := by
    rw [← foldl_depthAfter_mask_trim, hrest, foldl_depthAfter_mask_trim]
  -- the line is cut at its first character that is not blank, and nowhere else
  have hcuts : Cuts (indent ++ '|' :: rest) ((mask rest).foldl depthAfter 0) indent [rest] := by
    refine .bar (mask_blank_append hindent []).2 ?_ ?_ (.whole htop)
    · rw [mask_of_blank hindent, hasTopBar_of_blank hindent]
    · rw [mask_of_blank hindent, foldl_depthAfter_of_blank hindent]
  have hstays : staysWhole 0 (indent ++ '|' :: rest) = false := staysWhole_indent_bar hindent rest
  rw [hline, layoutLine_of_cuts hstays hcuts, if_pos hindent, hdepth, List.map_singleton,
    pipeLine_congr hrest, hline]

/-! ### Settled lines -/

/-- The layout leaves every one of the lines as it is, on its way from one state to another. -/
inductive Settled : State → List (List Char) → State → Prop
  | nil (s : State) : Settled s [] s
  | cons {s s' s'' : State} {line : List Char} {ls : List (List Char)} :
      layoutLine s line = (s', [line]) → Settled s' ls s'' → Settled s (line :: ls) s''

theorem Settled.layoutLines_eq (h : Settled s ls s') : layoutLines s ls = ls := by
  induction h with
  | nil s => rfl
  | cons hline _ ih => simp only [layoutLines, hline, ih, List.singleton_append]

theorem Settled.append (h : Settled s ls s') (h' : Settled s' ls' s'') :
    Settled s (ls ++ ls') s'' := by
  induction h with
  | nil s => exact h'
  | cons hline _ ih => exact .cons hline (ih h')

theorem Settled.left_of_append (h : Settled s (ls ++ ls') s') : ∃ s'', Settled s ls s'' := by
  induction ls generalizing s with
  | nil => exact ⟨s, .nil s⟩
  | cons line ls ih =>
    cases h with
    | cons hline h =>
      obtain ⟨s'', h''⟩ := ih h
      exact ⟨s'', .cons hline h''⟩

/-- The pieces of a line are settled when each stands behind a pipe on a line of its own. -/
theorem Cuts.settled_map_pipeLine (hcuts : Cuts line d head pieces) (hindent : IsBlankText indent) :
    Settled ⟨0, indent⟩ ((head :: pieces).map (pipeLine indent)) ⟨d, indent⟩ := by
  induction hcuts with
  | whole hline => exact .cons (layoutLine_pipeLine hindent hline) (.nil _)
  | bar _ ha hdepth _ ih =>
    have hfirst := layoutLine_pipeLine hindent ha
    rw [hdepth] at hfirst
    exact .cons hfirst ih

theorem Cuts.settled_statement (hcuts : Cuts line d head pieces) (hhead : ¬ IsBlankText head)
    (h : staysWhole 0 line = false) (indent : List Char) :
    Settled ⟨0, indent⟩ (trimEnd head :: pieces.map (pipeLine (leadingBlanks line)))
      ⟨d, leadingBlanks line⟩ := by
  have hfirst := layoutLine_trimEnd_head hcuts hhead h indent
  cases hcuts with
  | whole => exact .cons hfirst (.nil _)
  | bar _ _ hdepth hb =>
    -- no parenthesis is open at a cut, so the next line begins with none
    rw [hdepth] at hfirst
    exact .cons hfirst (hb.settled_map_pipeLine (isBlankText_leadingBlanks _))

/-- A line without anything before its first pipe has a pipe. -/
theorem Cuts.settled_continuation (hcuts : Cuts line d head pieces) (hhead : IsBlankText head)
    (h : staysWhole 0 line = false) (hindent : IsBlankText indent) :
    Settled ⟨0, indent⟩ (pieces.map (pipeLine indent)) ⟨d, indent⟩ := by
  cases hcuts with
  | whole => exact ((staysWhole_eq_false_iff.mp h).1 hhead).elim
  | bar _ _ _ hb => exact hb.settled_map_pipeLine hindent

/-- What a line is turned into is settled, and leads to the state behind the line. -/
theorem settled_layoutLine (hindent : IsBlankText s.indent) (line : List Char) :
    Settled s (layoutLine s line).2 (layoutLine s line).1 := by
  obtain ⟨depth, indent⟩ := s
  rcases layoutLine_cases ⟨depth, indent⟩ line with
    ⟨hstays, hline⟩ | ⟨rfl, hstays, d, head, pieces, hcuts, ⟨hhead, hline⟩ | ⟨hhead, hline⟩⟩
  · have hsettled := Settled.cons (layoutLine_trimEnd_of_staysWhole hstays) (.nil _)
    rw [hline] at hsettled ⊢
    exact hsettled
  · rw [hline]
    exact hcuts.settled_continuation hhead hstays hindent
  · rw [hline]
    exact hcuts.settled_statement hhead hstays indent

theorem isBlankText_indent_layoutLine (hindent : IsBlankText s.indent) (line : List Char) :
    IsBlankText (layoutLine s line).1.indent := by
  rcases layoutLine_cases s line with
    ⟨_, hline⟩ | ⟨_, _, d, head, pieces, _, ⟨_, hline⟩ | ⟨_, hline⟩⟩
  · rwa [hline]
  · rwa [hline]
  · rw [hline]
    exact isBlankText_leadingBlanks line

theorem exists_settled_layoutLines (hindent : IsBlankText s.indent) (ls : List (List Char)) :
    ∃ s', Settled s (layoutLines s ls) s' := by
  induction ls generalizing s with
  | nil => exact ⟨s, .nil s⟩
  | cons line ls ih =>
    obtain ⟨s', hs'⟩ := ih (isBlankText_indent_layoutLine hindent line)
    exact ⟨s', (settled_layoutLine hindent line).append hs'⟩

/-! ### The lines of the result -/

theorem layoutLine_ne_nil (s : State) (line : List Char) : (layoutLine s line).2 ≠ [] := by
  rcases layoutLine_cases s line with
    ⟨_, hline⟩ | ⟨_, hstays, d, head, pieces, hcuts, ⟨hhead, hline⟩ | ⟨_, hline⟩⟩
  · rw [hline]
    exact List.cons_ne_nil _ _
  · -- a line that is not blank has a pipe if there is nothing before its first one
    rw [hline]
    cases hcuts with
    | whole => exact ((staysWhole_eq_false_iff.mp hstays).1 hhead).elim
    | bar => simp
  · rw [hline]
    exact List.cons_ne_nil _ _

theorem layoutLines_ne_nil (s : State) (hne : ls ≠ []) : layoutLines s ls ≠ [] := by
  cases ls with
  | nil => exact (hne rfl).elim
  | cons line ls => exact List.append_ne_nil_of_left_ne_nil (layoutLine_ne_nil s line) _

theorem isLine_trimEnd (h : '\n' ∉ line) : IsLine (trimEnd line) :=
  ⟨fun hmem => h ((trimEnd_isPrefix line).subset hmem), getLast?_trimEnd_ne_some (by decide)⟩

theorem isLine_pipeLine (hindent : '\n' ∉ indent) (hpiece : '\n' ∉ piece) :
    IsLine (pipeLine indent piece) := by
  have htrim : '\n' ∉ trim piece := by
    obtain ⟨a, b, -, -, hsplit⟩ := exists_eq_append_trim_append piece
    intro hmem
    rw [hsplit] at hpiece
    exact hpiece (List.mem_append_left _ (List.mem_append_right _ hmem))
  unfold pipeLine
  split
  · constructor
    · simpa using hindent
    · simp
  · rename_i hne
    constructor
    · simp [hindent, htrim]
    · -- the line ends like the trimmed piece, which does not end in a blank
      rw [List.append_cons, List.append_cons, List.getLast?_append,
        List.getLast?_eq_some_getLast hne, Option.some_or, ← List.getLast?_eq_some_getLast]
      exact getLast?_trimEnd_ne_some (by decide)

theorem isLine_of_mem_layoutLine (hindent : '\n' ∉ s.indent) (hbreak : '\n' ∉ line) :
    (∀ l ∈ (layoutLine s line).2, IsLine l) ∧ '\n' ∉ (layoutLine s line).1.indent := by
  have hblanks : '\n' ∉ leadingBlanks line := fun hmem => hbreak (List.takeWhile_subset _ hmem)
  have hpieces : ∀ {d head pieces} {indent : List Char}, Cuts line d head pieces →
      '\n' ∉ indent → ∀ l ∈ pieces.map (pipeLine indent), IsLine l := by
    intro d head pieces indent hcuts hindent l hl
    obtain ⟨piece, hp, rfl⟩ := List.mem_map.mp hl
    exact isLine_pipeLine hindent fun hmem => hbreak (hcuts.subset_of_mem hp hmem)
  rcases layoutLine_cases s line with
    ⟨_, hline⟩ | ⟨_, _, d, head, pieces, hcuts, ⟨_, hline⟩ | ⟨_, hline⟩⟩
  · rw [hline]
    refine ⟨fun l hl => ?_, hindent⟩
    rw [List.mem_singleton.mp hl]
    exact isLine_trimEnd hbreak
  · rw [hline]
    exact ⟨hpieces hcuts hindent, hindent⟩
  · rw [hline]
    refine ⟨List.forall_mem_cons.mpr ⟨isLine_trimEnd fun hmem => ?_, hpieces hcuts hblanks⟩,
      hblanks⟩
    exact hbreak (hcuts.head_isPrefix.subset hmem)

/-- Every line that is written is read back as it is. -/
theorem isLine_of_mem_layoutLines (hindent : '\n' ∉ s.indent) (hls : ∀ l ∈ ls, '\n' ∉ l) :
    ∀ l ∈ layoutLines s ls, IsLine l := by
  induction ls generalizing s with
  | nil => simp [layoutLines]
  | cons line ls ih =>
    obtain ⟨hfirst, hindent'⟩ := isLine_of_mem_layoutLine hindent (hls line List.mem_cons_self)
    intro l hl
    rcases List.mem_append.mp hl with hl | hl
    · exact hfirst l hl
    · exact ih hindent' (fun l hl => hls l (List.mem_cons_of_mem _ hl)) l hl

/-- The result is made of lines that are read back as they are. The last of them may be empty: then
it stands for the line break at the end, and may be the last line that was written. -/
theorem exists_alignPipes_eq (text : List Char) :
    ∃ ls last, alignPipes text = joinLines (ls ++ [last]) ∧ (∀ l ∈ ls ++ [last], IsLine l) ∧
      (ls ++ [last] = layoutLines {} (lines text) ∨
        last = [] ∧ ls = layoutLines {} (lines text)) := by
  have hout : ∀ l ∈ layoutLines {} (lines text), IsLine l :=
    isLine_of_mem_layoutLines List.not_mem_nil fun l hl => notMem_of_mem_lines hl
  have hout' : ∀ l ∈ layoutLines {} (lines text) ++ [[]], IsLine l := by
    simpa [or_imp, forall_and, isLine_nil] using hout
  rw [alignPipes]
  cases hbreak : endsInLineBreak text with
  | true =>
    -- the line break at the end is read as an empty last line
    obtain ⟨ls, last, hpieces⟩ := exists_pieces_eq text
    have hlines : lines text ≠ [] := by
      rw [lines_eq_of_pieces hpieces]
      simp [((endsInLineBreak_iff hpieces).mp hbreak).1]
    refine ⟨layoutLines {} (lines text), [], ?_, hout', Or.inr ⟨rfl, rfl⟩⟩
    rw [joinLines_append_singleton (layoutLines_ne_nil _ hlines)]
    rfl
  | false =>
    rw [if_neg Bool.false_ne_true, List.append_nil]
    by_cases hne : layoutLines {} (lines text) = []
    · refine ⟨[], [], ?_, by simpa using isLine_nil, Or.inr ⟨rfl, hne.symm⟩⟩
      rw [hne]
      rfl
    · have hsplit := List.dropLast_concat_getLast hne
      refine ⟨_, _, congrArg joinLines hsplit.symm, ?_, Or.inl hsplit⟩
      rw [hsplit]
      exact hout

/-- The lines of the result are the lines that were written, but an empty last line may have
become part of a line break. -/
theorem lines_alignPipes (text : List Char) :
    lines (alignPipes text) = layoutLines {} (lines text) ∨
      lines (alignPipes text) ++ [[]] = layoutLines {} (lines text) := by
  obtain ⟨ls, last, htext, hls, hout⟩ := exists_alignPipes_eq text
  have hlines := lines_joinLines_append_singleton
    (fun l hl => hls l (List.mem_append_left _ hl)) (hls last (by simp))
  rw [htext, hlines]
  rcases hout with hout | ⟨rfl, hout⟩
  · by_cases hlast : last = []
    · -- the last line that was written is empty, and not seen any more
      rw [if_pos hlast, List.append_nil]
      rw [hlast] at hout
      exact Or.inr hout
    · rw [if_neg hlast]
      exact Or.inl hout
  · rw [if_pos rfl, List.append_nil]
    exact Or.inl hout

/-- The result is made of its lines and the line break it may end in. -/
theorem joinLines_lines_alignPipes (text : List Char) :
    joinLines (lines (alignPipes text)) ++
      (if endsInLineBreak (alignPipes text) then ['\n'] else []) = alignPipes text := by
  obtain ⟨ls, last, htext, hls, -⟩ := exists_alignPipes_eq text
  refine joinLines_lines_append fun l hl => ?_
  rw [htext, pieces_joinLines (fun l hl => (hls l hl).notMem) (by simp)] at hl
  exact (hls l hl).getLast?

/-- A second run of the layout changes nothing. -/
theorem alignPipes_idempotent (text : List Char) :
    alignPipes (alignPipes text) = alignPipes text := by
  obtain ⟨s', hsettled⟩ := exists_settled_layoutLines (s := {}) isBlankText_nil (lines text)
  have hkept : layoutLines {} (lines (alignPipes text)) = lines (alignPipes text) := by
    rcases lines_alignPipes text with hlines | hlines
    · rw [hlines]
      exact hsettled.layoutLines_eq
    · -- without the empty last line the other ones are settled all the same
      rw [← hlines] at hsettled
      obtain ⟨s'', hsettled'⟩ := hsettled.left_of_append
      exact hsettled'.layoutLines_eq
  rw [alignPipes, hkept]
  exact joinLines_lines_alignPipes text

end QueryAssist.Layout
