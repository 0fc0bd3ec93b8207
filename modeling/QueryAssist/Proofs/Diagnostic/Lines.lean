import QueryAssist.Proofs.Diagnostic.Scan
import QueryAssist.Proofs.Line.Literal
import QueryAssist.Proofs.Text.Lines

/-!
# The diagnostics of a text, line by line

What is remarked on a line does not depend on the other lines: apart from the line number it is what
is remarked on a text that has only this line. The diagnostics of different lines come in the order
of the lines, so sorting them does not mix them.

## Main definitions

* `Diagnostic.movedDown` — a diagnostic some lines further down
* `Diagnostic.sorted` — diagnostics in the order in which they begin

## Main results

* `ofLine_append_blank`, `ofLine_eq_map_movedDown` — blanks at the end of a line do not matter, and
  the line number only moves the remarks
* `scan_eq_flatMap_pieces` — the diagnostics of a text are those of its pieces, moved down
* `scan_append` — a text can be looked through in two parts
* `scan_of_parts` — what an edit of a part of a text does to the diagnostics
-/

namespace QueryAssist.Diagnostic

open Text Pattern Literal

variable {c : Catalog} {settings : Settings} {lineNumber k n : Nat} {line raw b : List Char}
  {d : Diagnostic} {ls : List (List Char)}

/-- The diagnostic `n` lines further down. -/
def movedDown (n : Nat) (d : Diagnostic) : Diagnostic :=
  { d with
    range.start.line := d.range.start.line + n
    range.stop.line := d.range.stop.line + n }

theorem movedDown_movedDown (m n : Nat) (d : Diagnostic) :
    movedDown n (movedDown m d) = movedDown (m + n) d := by
  simp only [movedDown, Nat.add_assoc]

/-- The diagnostics in the order in which they begin. -/
def sorted (ds : List Diagnostic) : List Diagnostic :=
  ds.mergeSort fun d d' => d.range.start.precedes d'.range.start

theorem sorted_append {ds ds' : List Diagnostic}
    (h : ∀ d ∈ ds, ∀ d' ∈ ds', d.range.start.precedes d'.range.start = true) :
    sorted (ds ++ ds') = sorted ds ++ sorted ds' :=
  mergeSort_append (fun _ _ _ => precedes_trans _ _ _) (fun _ _ => precedes_total _ _) h

/-- Moving diagnostics down together does not change their order. -/
theorem sorted_map_movedDown (n : Nat) (ds : List Diagnostic) :
    sorted (ds.map (movedDown n)) = (sorted ds).map (movedDown n) := by
  refine (List.map_mergeSort fun d _ d' _ => ?_).symm
  rw [Bool.eq_iff_iff, precedes_iff, precedes_iff]
  simp only [movedDown]
  omega

/-! ### One line -/

theorem ofInlinePipe_append_blank (hb : IsBlankText b) (lineNumber : Nat) (line : List Char) :
    ofInlinePipe lineNumber (line ++ b) = ofInlinePipe lineNumber line := by
  have hnone : b.findIdx? (· == '|') = none := by
    rw [List.findIdx?_eq_none_iff]
    intro c hc
    exact beq_eq_false_iff_ne.mpr (ne_of_isBlank (hb c hc) isBlank_bar)
  have hfirst : (line ++ b).idxOf? '|' = line.idxOf? '|' := by
    unfold List.idxOf?
    rw [List.findIdx?_append, hnone, Option.map_none, Option.or_none]
  rw [ofInlinePipe, hfirst, ofInlinePipe]

/-- Blanks at the end of a line do not matter. -/
theorem ofLine_append_blank (hb : IsBlankText b) (lineNumber : Nat) (raw : List Char) :
    ofLine c settings lineNumber (raw ++ b) = ofLine c settings lineNumber raw := by
  obtain ⟨b', hb', hmask⟩ := exists_maskFrom_eq_append .outside raw hb
  have hmask' : mask (raw ++ b) = mask raw ++ b' := hmask
  simp only [ofLine, trim_append_blank hb, hmask', ofStatementStart_eq, ofPipedWords_eq,
    statementName?_append (endsName_of_blank hb'), pipedWords_append_blank hb',
    ofInlinePipe_append_blank hb']

theorem ofLine_dropReturn (c : Catalog) (settings : Settings) (lineNumber : Nat)
    (raw : List Char) :
    ofLine c settings lineNumber (dropReturn raw) = ofLine c settings lineNumber raw := by
  obtain ⟨b, hb, hraw⟩ := exists_eq_dropReturn_append raw
  conv_rhs => rw [hraw, ofLine_append_blank hb]

theorem Name.remark?_eq_map_movedDown (name : Name) (lineNumber column : Nat) :
    name.remark? c settings lineNumber column =
      (name.remark? c settings 0 column).map (movedDown lineNumber) := by
  cases name <;>
  · simp only [Name.remark?]
    split
    · rfl
    · simp [unknownWord, unknownName, movedDown, Range.onLine]

/-- The line number only moves the remarks on a line. -/
theorem ofLine_eq_map_movedDown (c : Catalog) (settings : Settings) (lineNumber : Nat)
    (raw : List Char) :
    ofLine c settings lineNumber raw = (ofLine c settings 0 raw).map (movedDown lineNumber) := by
  have hnames : ∀ names : List (Nat × Name),
      names.filterMap (fun n => n.2.remark? c settings lineNumber n.1) =
        (names.filterMap fun n => n.2.remark? c settings 0 n.1).map (movedDown lineNumber) := by
    intro names
    rw [List.map_filterMap]
    simp only [← Name.remark?_eq_map_movedDown]
  have hpipe : ∀ line : List Char,
      ofInlinePipe lineNumber line = (ofInlinePipe 0 line).map (movedDown lineNumber) := by
    intro line
    unfold ofInlinePipe
    split
    · rfl
    · simp [movedDown, Range.onLine]
  unfold ofLine
  dsimp only
  split
  · rfl
  · rw [ofStatementStart_eq, ofPipedWords_eq, ofStatementStart_eq, ofPipedWords_eq, hnames, hnames,
      List.map_append, List.map_append]
    split
    · rw [hpipe]
    · rfl

theorem line_of_mem_ofLine (h : d ∈ ofLine c settings lineNumber raw) :
    d.range.start.line = lineNumber := by
  rcases of_mem_ofLine h with ⟨n, -, hn⟩ | h
  · rw [Name.start_of_remark? hn]
  · obtain ⟨column, -, hrange, -⟩ := of_mem_ofInlinePipe h
    rw [hrange]
    rfl

/-! ### All lines -/

/-- The diagnostics of lines as they are found, where the first line has the number `k`. -/
def ofLines (c : Catalog) (settings : Settings) (k : Nat) (ls : List (List Char)) :
    List Diagnostic :=
  (ls.zipIdx k).flatMap fun l => ofLine c settings l.2 l.1

theorem ofLines_cons (c : Catalog) (settings : Settings) (k : Nat) (raw : List Char)
    (ls : List (List Char)) :
    ofLines c settings k (raw :: ls) =
      ofLine c settings k raw ++ ofLines c settings (k + 1) ls := by
  rw [ofLines, List.zipIdx_cons, List.flatMap_cons, ofLines]

theorem le_line_of_mem_ofLines (h : d ∈ ofLines c settings k ls) : k ≤ d.range.start.line := by
  obtain ⟨l, hl, hd⟩ := List.mem_flatMap.mp h
  rw [line_of_mem_ofLine hd]
  exact (List.mem_zipIdx hl).1

/-- Sorting does not mix the diagnostics of different lines. -/
theorem sorted_ofLines (c : Catalog) (settings : Settings) (k : Nat) (ls : List (List Char)) :
    sorted (ofLines c settings k ls) =
      (ls.zipIdx k).flatMap fun l => sorted (ofLine c settings l.2 l.1) := by
  induction ls generalizing k with
  | nil => exact List.mergeSort_nil
  | cons raw ls ih =>
    -- the first line comes before all the others
    have hbefore : ∀ d ∈ ofLine c settings k raw, ∀ d' ∈ ofLines c settings (k + 1) ls,
        d.range.start.precedes d'.range.start = true := by
      intro d hd d' hd'
      have hline := line_of_mem_ofLine hd
      have hline' := le_line_of_mem_ofLines hd'
      have hlt : d.range.start.line < d'.range.start.line := by omega
      exact precedes_of_line_lt hlt
    rw [ofLines_cons, sorted_append hbefore, ih, List.zipIdx_cons, List.flatMap_cons]

/-- Whether a piece of a text ends in a `\r`, and whether the last piece is empty, makes no
difference to what is remarked on. -/
theorem scan_eq_sorted_ofLines_pieces (c : Catalog) (settings : Settings) (text : List Char) :
    scan c settings text = sorted (ofLines c settings 0 (pieces text)) := by
  obtain ⟨ls, last, hpieces⟩ := exists_pieces_eq text
  -- the pieces are the lines, up to a blank at the end of each and an empty last one
  have hls : ((ls.map dropReturn).zipIdx 0).flatMap (fun l => ofLine c settings l.2 l.1) =
      (ls.zipIdx 0).flatMap fun l => ofLine c settings l.2 l.1 := by
    rw [List.zipIdx_map, List.flatMap_map]
    exact congrArg (List.flatMap · (ls.zipIdx 0))
      (funext fun l => ofLine_dropReturn c settings l.2 l.1)
  have hlast : ∀ k, (((if last = [] then [] else [last]).zipIdx k).flatMap
      fun l => ofLine c settings l.2 l.1) = ([last].zipIdx k).flatMap
        fun l => ofLine c settings l.2 l.1 := by
    intro k
    split
    · rename_i hnil
      rw [hnil]
      rfl
    · rfl
  rw [scan, ofLines, hpieces, lines_eq_of_pieces hpieces, List.zipIdx_append, List.zipIdx_append,
    List.flatMap_append, List.flatMap_append, hls, List.length_map, hlast, sorted]

/-- A text of one line has the diagnostics of the line. -/
theorem scan_of_notMem (h : '\n' ∉ line) :
    scan c settings line = sorted (ofLine c settings 0 line) := by
  have hline : ∀ l ∈ [line], '\n' ∉ l := List.forall_mem_singleton.mpr h
  have hpieces : pieces line = [line] := pieces_joinLines hline (List.cons_ne_nil line [])
  rw [scan_eq_sorted_ofLines_pieces, hpieces, sorted_ofLines]
  exact List.flatMap_singleton _ _

/-- The diagnostics of a text are those of its pieces, each moved down to the line of the piece. -/
theorem scan_eq_flatMap_pieces (c : Catalog) (settings : Settings) (text : List Char) :
    scan c settings text =
      (pieces text).zipIdx.flatMap fun l => (scan c settings l.1).map (movedDown l.2) := by
  rw [scan_eq_sorted_ofLines_pieces, sorted_ofLines]
  refine List.flatMap_congr fun l hl => ?_
  have hbreak : '\n' ∉ l.1 := notMem_of_mem_pieces (List.fst_mem_of_mem_zipIdx hl)
  rw [scan_of_notMem hbreak, ofLine_eq_map_movedDown c settings l.2, sorted_map_movedDown]

/-- A text can be looked through in two parts: the diagnostics of the second part are moved down by
the lines of the first. -/
theorem scan_append (c : Catalog) (settings : Settings) (a b : List Char) :
    scan c settings (a ++ '\n' :: b) =
      scan c settings a ++ (scan c settings b).map (movedDown (a.count '\n' + 1)) := by
  have hmoved : ∀ l : List Char × Nat,
      ((scan c settings l.1).map (movedDown l.2)).map (movedDown (a.count '\n' + 1)) =
        (scan c settings l.1).map (movedDown (a.count '\n' + 1 + l.2)) := by
    intro l
    rw [List.map_map]
    refine List.map_congr_left fun d _ => ?_
    rw [Function.comp_apply, movedDown_movedDown, Nat.add_comm]
  rw [scan_eq_flatMap_pieces c settings (a ++ '\n' :: b), pieces_append_break, List.zipIdx_append,
    List.flatMap_append, ← scan_eq_flatMap_pieces, length_pieces, Nat.zero_add,
    scan_eq_flatMap_pieces c settings b, List.map_flatMap]
  simp only [hmoved]
  rw [List.zipIdx_eq_map_add, List.flatMap_map]

/-- Looking through a text is looking through its parts: the diagnostics of two parts come one after
the other, those of the second moved down by the lines of the first. So an edit of a part leaves the
diagnostics of what is before it, and moves those of what is behind it. -/
theorem scan_of_parts (c : Catalog) (settings : Settings) (a b : List Char) :
    scan c settings (a ++ '\n' :: b) =
        scan c settings a ++ (scan c settings b).map (movedDown (a.count '\n' + 1)) ∧
      ∀ edited : List Char,
        scan c settings (a ++ '\n' :: edited ++ '\n' :: b) =
          scan c settings a ++ (scan c settings edited).map (movedDown (a.count '\n' + 1)) ++
            (scan c settings b).map
              (movedDown ((a.count '\n' + 1) + (edited.count '\n' + 1))) := by
  refine ⟨scan_append c settings a b, fun edited => ?_⟩
  have hcount : (a ++ '\n' :: edited).count '\n' + 1 =
      (a.count '\n' + 1) + (edited.count '\n' + 1) := by
    rw [List.count_append, List.count_cons_self]
    omega
  rw [scan_append, scan_append, hcount]

end QueryAssist.Diagnostic
