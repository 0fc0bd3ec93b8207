import QueryAssist.Document.Position
import QueryAssist.Proofs.Document.Layout

/-!
# Where the pipes of a laid out text stand

On a line that begins outside of parentheses, the layout leaves no top-level pipe but one that the
line begins with. A line that begins inside of parentheses stays whole, also behind the parenthesis
that closes the last of them, so a pipe there may stand in the middle of the line.

## Main definitions

* `Layout.depthAt` — the number of parentheses that are open before a position
* `Layout.IsTopPipe` — a pipe stands there, outside of literals, comments and parentheses
* `Layout.BeginsLine` — there are only blanks before it on its line

## Main results

* `Settled.isAligned` — a settled line that begins outside of parentheses has no other pipes
* `beginsLine_alignPipes_iff` — which top-level pipes of the result begin their line
* `not_beginsLine_alignPipes` — one that does not
-/

namespace QueryAssist.Layout

open Text Literal

variable {line head m : List Char} {ls pieces : List (List Char)} {d depth n : Nat} {s s' : State}

/-- The line with a number, which is empty behind the end of the text. -/
def lineAt (text : List Char) (n : Nat) : List Char := ((Text.pieces text)[n]?).getD []

/-- The number of parentheses that are open before a position. They are counted from the beginning
of the text, without those in literals and comments; a closing parenthesis does not count where
none is open. -/
def depthAt (text : List Char) (p : Position) : Nat :=
  (((Text.pieces text).take p.line).flatMap mask ++
    (mask (lineAt text p.line)).take p.column).foldl depthAfter 0

/-- A pipe stands at the position, outside of literals, comments and parentheses. -/
def IsTopPipe (text : List Char) (p : Position) : Prop :=
  (mask (lineAt text p.line))[p.column]? = some '|' ∧ depthAt text p = 0

/-- The first character of the line that is not blank stands at the position or behind it. -/
def BeginsLine (text : List Char) (p : Position) : Prop :=
  IsBlankText ((lineAt text p.line).take p.column)

instance (text : List Char) : DecidablePred (IsTopPipe text) := fun _ =>
  inferInstanceAs (Decidable (_ ∧ _))

instance (text : List Char) : DecidablePred (BeginsLine text) := fun _ =>
  inferInstanceAs (Decidable (IsBlankText _))

/-! ### The pipes of a line -/

theorem hasTopBar_of_getElem? (h : m[n]? = some '|') (hdepth : (m.take n).foldl depthAfter d = 0) :
    hasTopBar d m = true := by
  obtain ⟨hlt, hget⟩ := List.getElem?_eq_some_iff.mp h
  have hsplit : m = m.take n ++ '|' :: m.drop (n + 1) := by
    rw [← hget, List.getElem_cons_drop, List.take_append_drop]
  rw [hsplit, hasTopBar_append, hdepth]
  simp [hasTopBar]

/-- In a line that begins outside of parentheses, only blanks stand before a top-level pipe. -/
def IsAligned (line : List Char) : Prop :=
  ∀ n, (mask line)[n]? = some '|' → ((mask line).take n).foldl depthAfter 0 = 0 →
    IsBlankText (line.take n)

theorem isAligned_of_not_hasTopBar (h : hasTopBar 0 (mask line) = false) : IsAligned line := by
  intro n hbar hdepth
  rw [hasTopBar_of_getElem? hbar hdepth] at h
  cases h

theorem isAligned_blank_bar {b rest : List Char} (hb : IsBlankText b)
    (hrest : hasTopBar 0 (mask rest) = false) : IsAligned (b ++ '|' :: rest) := by
  intro n hbar hdepth
  rw [mask_append_bar (mask_blank_append hb []).2, mask_of_blank hb] at hbar hdepth
  rcases Nat.lt_or_ge b.length n with hlt | hle
  · -- behind the first pipe there is no other one
    obtain ⟨k, rfl⟩ := Nat.exists_eq_add_of_lt hlt
    have hsum : b.length + k + 1 = b.length + (k + 1) := Nat.add_assoc _ _ _
    rw [hsum, List.getElem?_append_right (Nat.le_add_right _ _), Nat.add_sub_cancel_left,
      List.getElem?_cons_succ] at hbar
    rw [hsum, List.take_length_add_append, List.take_succ_cons, List.foldl_append,
      foldl_depthAfter_of_blank hb] at hdepth
    have hbar' : hasTopBar 0 (mask rest) = true := hasTopBar_of_getElem? hbar hdepth
    rw [hrest] at hbar'
    cases hbar'
  · rw [List.take_append_of_le_length hle]
    exact fun c hc => hb c (List.mem_of_mem_take hc)

/-- A blank line or a comment has no pipes. -/
theorem hasTopBar_mask_of_staysWhole (h : staysWhole 0 line = true) (depth : Nat) :
    hasTopBar depth (mask line) = false := by
  by_cases hblank : IsBlankText line
  · rw [mask_of_blank hblank, hasTopBar_of_blank hblank]
  · have hcomment : "//".toList <+: trim line := by
      by_contra hcomment
      rw [staysWhole_eq_false_iff.mpr ⟨hblank, hcomment, rfl⟩] at h
      cases h
    obtain ⟨rest, hrest⟩ := hcomment
    have hmask : mask (trim line) = blanked (trim line) := by
      rw [← hrest]
      exact maskFrom_cons_of_opensComment rfl
    rw [← hasTopBar_mask_trim, hmask, hasTopBar_of_blank (isBlankText_blanked _)]

/-! ### The depth behind a line -/

theorem Cuts.depth_eq (h : Cuts line d head pieces) : d = (mask line).foldl depthAfter 0 := by
  induction h with
  | whole => rfl
  | bar hstate _ hdepth _ ih =>
    rw [mask_append_bar hstate, List.foldl_append, hdepth, ih]
    rfl

/-- The state behind a line counts the parentheses of the line. -/
theorem depth_layoutLine (s : State) (line : List Char) :
    (layoutLine s line).1.depth = (mask line).foldl depthAfter s.depth := by
  rcases layoutLine_cases s line with
    ⟨_, hline⟩ | ⟨hdepth, _, d, head, pieces, hcuts, ⟨_, hline⟩ | ⟨_, hline⟩⟩
  · rw [hline]
  · rw [hline, hdepth]
    exact hcuts.depth_eq
  · rw [hline, hdepth]
    exact hcuts.depth_eq

/-! ### The pipes of settled lines -/

/-- A line that stays as it is, and begins outside of parentheses, has no pipes to be cut at. -/
theorem isAligned_of_layoutLine (h : (layoutLine s line).2 = [line]) (hdepth : s.depth = 0) :
    IsAligned line := by
  rcases layoutLine_cases s line with
    ⟨hstays, _⟩ | ⟨_, _, d, head, pieces, hcuts, ⟨hhead, hline⟩ | ⟨_, hline⟩⟩
  · exact isAligned_of_not_hasTopBar (hasTopBar_mask_of_staysWhole (hdepth ▸ hstays) 0)
  · -- the only piece stands behind the first pipe
    rw [hline] at h
    cases hcuts with
    | whole => cases h
    | bar _ _ _ hb =>
      cases hb with
      | whole hrest => exact isAligned_blank_bar hhead hrest
      | bar => simp at h
  · -- there is no piece behind the beginning of the statement
    rw [hline] at h
    cases hcuts with
    | whole hwhole => exact isAligned_of_not_hasTopBar hwhole
    | bar => simp at h

/-- A settled line has no pipes to be cut at if it begins outside of parentheses. -/
theorem Settled.isAligned (h : Settled s ls s') (hline : ls[n]? = some line)
    (hdepth : ((ls.take n).flatMap mask).foldl depthAfter s.depth = 0) : IsAligned line := by
  induction h generalizing n with
  | nil => cases hline
  | cons hfirst _ ih =>
    cases n with
    | zero =>
      cases hline
      exact isAligned_of_layoutLine (congrArg Prod.snd hfirst) hdepth
    | succ n =>
      refine ih hline ?_
      rw [List.take_succ_cons, List.flatMap_cons, List.foldl_append, ← depth_layoutLine,
        hfirst] at hdepth
      exact hdepth

/-- The lines of the result are settled, an empty one at the end included. -/
theorem exists_settled_pieces_alignPipes (text : List Char) :
    ∃ s', Settled {} (Text.pieces (alignPipes text)) s' := by
  obtain ⟨ls, last, htext, hls, hout⟩ := exists_alignPipes_eq text
  have hpieces : Text.pieces (alignPipes text) = ls ++ [last] := by
    rw [htext]
    exact pieces_joinLines (fun l hl => (hls l hl).notMem) (by simp)
  obtain ⟨s', hsettled⟩ := exists_settled_layoutLines (s := {}) isBlankText_nil (lines text)
  rw [hpieces]
  rcases hout with hout | ⟨rfl, hout⟩
  · exact ⟨s', hout ▸ hsettled⟩
  · have hempty : layoutLine s' [] = (s', [[]]) := layoutLine_of_staysWhole rfl
    exact ⟨s', (hout ▸ hsettled).append (.cons hempty (.nil s'))⟩

/-! ### The pipes of a text -/

theorem depthAt_lineStart (text : List Char) (n : Nat) :
    depthAt text ⟨n, 0⟩ = (((Text.pieces text).take n).flatMap mask).foldl depthAfter 0 := by
  rw [depthAt, List.take_zero, List.append_nil]

theorem depthAt_eq (text : List Char) (p : Position) :
    depthAt text p =
      ((mask (lineAt text p.line)).take p.column).foldl depthAfter (depthAt text ⟨p.line, 0⟩) := by
  rw [depthAt_lineStart, depthAt, List.foldl_append]

/-- The blanks that a line begins with are shown as they are. -/
theorem take_mask_of_blank (h : IsBlankText (line.take n)) :
    (mask line).take n = line.take n := by
  rcases le_total n line.length with hle | hle
  · have hmask := (mask_blank_append h (line.drop n)).1
    rw [List.take_append_drop] at hmask
    rw [hmask, List.take_left' (List.length_take_of_le hle)]
  · rw [List.take_of_length_le hle] at h
    rw [mask_of_blank h]

/-- The blanks that a line begins with open and close no parentheses. -/
theorem depthAt_of_beginsLine {text : List Char} {p : Position} (h : BeginsLine text p) :
    depthAt text p = depthAt text ⟨p.line, 0⟩ := by
  rw [depthAt_eq, take_mask_of_blank h, foldl_depthAfter_of_blank h]

/-- A top-level pipe of the result is the first character of its line, blanks apart, exactly if the
line begins outside of parentheses. -/
theorem beginsLine_alignPipes_iff (text : List Char) (p : Position)
    (h : IsTopPipe (alignPipes text) p) :
    BeginsLine (alignPipes text) p ↔ depthAt (alignPipes text) ⟨p.line, 0⟩ = 0 := by
  constructor
  · intro hbegins
    rw [← depthAt_of_beginsLine hbegins]
    exact h.2
  · intro hdepth
    obtain ⟨hbar, hdepth'⟩ := h
    obtain ⟨s', hsettled⟩ := exists_settled_pieces_alignPipes text
    rw [depthAt_eq, hdepth] at hdepth'
    rw [depthAt_lineStart] at hdepth
    cases hline : (Text.pieces (alignPipes text))[p.line]? with
    | none => simp [BeginsLine, lineAt, hline]
    | some line =>
      have haligned := hsettled.isAligned hline hdepth
      rw [lineAt, hline] at hbar hdepth'
      rw [BeginsLine, lineAt, hline]
      exact haligned p.column hbar hdepth'

/-- A join over several lines, with a pipe on the line that closes it and one on the next line. -/
def longJoin : List Char := "Logs\n| join (\nUsers\n) on id | take 5\n  |count".toList

/-- The pipe on the line behind the join begins it. -/
theorem beginsLine_alignPipes_iff_longJoin :
    IsTopPipe (alignPipes longJoin) ⟨4, 0⟩ ∧
      (BeginsLine (alignPipes longJoin) ⟨4, 0⟩ ↔ depthAt (alignPipes longJoin) ⟨4, 0⟩ = 0) := by
  have hbar : IsTopPipe (alignPipes longJoin) ⟨4, 0⟩ := by decide +kernel
  exact ⟨hbar, beginsLine_alignPipes_iff longJoin _ hbar⟩

/-- The top-level pipe on the line that closes the join stays in the middle of it. -/
theorem not_beginsLine_alignPipes :
    IsTopPipe (alignPipes longJoin) ⟨3, 8⟩ ∧ ¬ BeginsLine (alignPipes longJoin) ⟨3, 8⟩ := by
  constructor <;> decide +kernel

end QueryAssist.Layout
