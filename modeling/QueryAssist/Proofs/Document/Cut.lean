import Mathlib.Data.List.Basic
import QueryAssist.Document.Layout
import QueryAssist.Proofs.Line.Literal

/-!
# Cutting a line at its pipes

A line is cut at every pipe outside of parentheses, literals and comments. At such a pipe no
parenthesis is open, so the pieces can be read on their own, one after the other.

## Main definitions

* `Layout.hasTopBar` — a masked text has a pipe outside of parentheses
* `Layout.Cuts` — the pieces of a line, as a relation

## Main results

* `cuts_cutAtPipes`, `Cuts.cutAtPipes_eq` — the pieces that are computed are those of the relation
* `hasTopBar_mask_trim`, `foldl_depthAfter_mask_trim` — blanks around a piece do not matter
-/

namespace QueryAssist.Layout

open Text Literal

variable {line head a b m : List Char} {pieces : List (List Char)} {d depth : Nat} {c : Char}

/-- Whether a masked text has a pipe at which no parenthesis is open, when `depth` parentheses are
open before it. -/
def hasTopBar : (depth : Nat) → List Char → Bool
  | _, [] => false
  | depth, c :: m => (c == '|' && depth == 0) || hasTopBar (depthAfter depth c) m

/-! ### Blanks -/

theorem depthAfter_of_blank (hc : isBlank c = true) : depthAfter depth c = depth := by
  have hopen : c ≠ '(' := ne_of_isBlank hc (by decide)
  have hclose : c ≠ ')' := ne_of_isBlank hc (by decide)
  rw [depthAfter, if_neg hopen, if_neg hclose]

theorem foldl_depthAfter_of_blank (hb : IsBlankText b) (depth : Nat) :
    b.foldl depthAfter depth = depth := by
  induction b with
  | nil => rfl
  | cons c b ih =>
    obtain ⟨hc, hb⟩ := isBlankText_cons.mp hb
    rw [List.foldl_cons, depthAfter_of_blank hc, ih hb]

theorem hasTopBar_append (depth : Nat) (a b : List Char) :
    hasTopBar depth (a ++ b) =
      (hasTopBar depth a || hasTopBar (a.foldl depthAfter depth) b) := by
  induction a generalizing depth with
  | nil => rfl
  | cons c a ih => rw [List.cons_append, hasTopBar, ih, hasTopBar, List.foldl_cons, Bool.or_assoc]

theorem hasTopBar_of_blank (hb : IsBlankText b) (depth : Nat) : hasTopBar depth b = false := by
  induction b generalizing depth with
  | nil => rfl
  | cons c b ih =>
    obtain ⟨hc, hb⟩ := isBlankText_cons.mp hb
    have hbar : (c == '|') = false := beq_eq_false_iff_ne.mpr (ne_of_isBlank hc isBlank_bar)
    rw [hasTopBar, hbar, ih hb]
    rfl

/-- Blanks around a piece have no pipes among them. -/
theorem hasTopBar_mask_trim (depth : Nat) (piece : List Char) :
    hasTopBar depth (mask (trim piece)) = hasTopBar depth (mask piece) := by
  obtain ⟨x, y, hx, hy, hmask⟩ := exists_mask_eq_append_mask_trim_append piece
  rw [hmask, hasTopBar_append, hasTopBar_append, hasTopBar_of_blank hx, hasTopBar_of_blank hy,
    foldl_depthAfter_of_blank hx, Bool.false_or, Bool.or_false]

/-- Blanks around a piece have no parentheses among them. -/
theorem foldl_depthAfter_mask_trim (depth : Nat) (piece : List Char) :
    (mask (trim piece)).foldl depthAfter depth = (mask piece).foldl depthAfter depth := by
  obtain ⟨x, y, hx, hy, hmask⟩ := exists_mask_eq_append_mask_trim_append piece
  rw [hmask, List.foldl_append, List.foldl_append, foldl_depthAfter_of_blank hx,
    foldl_depthAfter_of_blank hy]

/-! ### The pieces of a line -/

/-- A line is cut into `head` and the pieces behind its top-level pipes; `depth` parentheses are
open behind it. -/
inductive Cuts : (line : List Char) → (depth : Nat) → (head : List Char) →
    (pieces : List (List Char)) → Prop
  /-- A line without top-level pipes is one piece. -/
  | whole {line : List Char} (hline : hasTopBar 0 (mask line) = false) :
      Cuts line ((mask line).foldl depthAfter 0) line []
  /-- The first top-level pipe is outside of literals, comments and parentheses. -/
  | bar {a b head : List Char} {depth : Nat} {pieces : List (List Char)}
      (hstate : stateAfter .outside a = some .outside) (ha : hasTopBar 0 (mask a) = false)
      (hdepth : (mask a).foldl depthAfter 0 = 0) (hb : Cuts b depth head pieces) :
      Cuts (a ++ '|' :: b) depth a (head :: pieces)

theorem cutAtPipes_of_not_hasTopBar (shown : List (Char × Char)) (depth : Nat)
    (h : hasTopBar depth (shown.map (·.2)) = false) :
    cutAtPipes depth shown =
      ((shown.map (·.2)).foldl depthAfter depth, shown.map (·.1), []) := by
  induction shown generalizing depth with
  | nil => rfl
  | cons p shown ih =>
    obtain ⟨c, m⟩ := p
    rw [List.map_cons, hasTopBar, Bool.or_eq_false_iff] at h
    have hbar : ¬ (m = '|' ∧ depth = 0) := by simpa using h.1
    rw [cutAtPipes, ih _ h.2]
    exact if_neg hbar

theorem cutAtPipes_append_bar (shown rest : List (Char × Char)) (depth : Nat)
    (h : hasTopBar depth (shown.map (·.2)) = false)
    (hdepth : (shown.map (·.2)).foldl depthAfter depth = 0) :
    cutAtPipes depth (shown ++ (c, '|') :: rest) =
      ((cutAtPipes 0 rest).1, shown.map (·.1),
        (cutAtPipes 0 rest).2.1 :: (cutAtPipes 0 rest).2.2) := by
  induction shown generalizing depth with
  | nil =>
    obtain rfl : depth = 0 := hdepth
    rw [List.nil_append, cutAtPipes]
    exact if_pos ⟨rfl, rfl⟩
  | cons p shown ih =>
    -- there is no cut before the first top-level pipe
    obtain ⟨c', m⟩ := p
    rw [List.map_cons, hasTopBar, Bool.or_eq_false_iff] at h
    have hbar : ¬ (m = '|' ∧ depth = 0) := by simpa using h.1
    rw [List.cons_append, cutAtPipes, ih _ h.2 hdepth]
    exact if_neg hbar

/-- The pieces that are computed for a line are the only ones. -/
theorem Cuts.cutAtPipes_eq (h : Cuts line d head pieces) :
    cutAtPipes 0 (line.zip (mask line)) = (d, head, pieces) := by
  induction h with
  | @whole line hline =>
    have hmap : (line.zip (mask line)).map (·.2) = mask line :=
      List.map_snd_zip (length_mask line).le
    have hmap' : (line.zip (mask line)).map (·.1) = line :=
      List.map_fst_zip (length_mask line).ge
    rw [cutAtPipes_of_not_hasTopBar _ 0 (by rwa [hmap]), hmap, hmap']
  | @bar a b head depth pieces hstate ha hdepth _ ih =>
    have hmap : (a.zip (mask a)).map (·.2) = mask a := List.map_snd_zip (length_mask a).le
    have hmap' : (a.zip (mask a)).map (·.1) = a := List.map_fst_zip (length_mask a).ge
    rw [mask_append_bar hstate, List.zip_append (length_mask a).symm, List.zip_cons_cons,
      cutAtPipes_append_bar _ _ 0 (by rwa [hmap]) (by rwa [hmap]), hmap', ih]

/-- A top-level pipe of a masked text is one of the text itself, outside of literals, comments and
parentheses. -/
theorem exists_bar_of_hasTopBar {s : Literal.State} (hs : s.IsProper)
    (h : hasTopBar depth (maskFrom s line) = true) :
    ∃ a b, line = a ++ '|' :: b ∧ stateAfter s a = some .outside ∧
      hasTopBar depth (maskFrom s a) = false ∧ (maskFrom s a).foldl depthAfter depth = 0 := by
  induction line generalizing s depth with
  | nil => cases h
  | cons c rest ih =>
    cases hcomment : s.opensComment c rest with
    | true =>
      -- a comment is blanked out up to the end of the line
      rw [maskFrom_cons_of_opensComment hcomment, hasTopBar_of_blank (isBlankText_blanked _)] at h
      cases h
    | false =>
      rw [maskFrom_cons hcomment, hasTopBar] at h
      by_cases hbar : s.shown c = '|' ∧ depth = 0
      · -- a pipe is shown only outside of literals
        obtain ⟨rfl, rfl⟩ := hs.eq_outside_of_shown hbar.1
        exact ⟨[], rest, rfl, rfl, rfl, hbar.2⟩
      · have hbar' : (s.shown c == '|' && depth == 0) = false := by simpa using hbar
        rw [hbar', Bool.false_or] at h
        obtain ⟨a, b, rfl, hstate, ha, hdepth⟩ := ih (hs.next c) h
        have hcomment' : s.opensComment c a = false := by
          rwa [s.opensComment_append (by simp) c a] at hcomment
        refine ⟨c :: a, b, rfl, by rwa [stateAfter_cons hcomment'], ?_, ?_⟩
        · rw [maskFrom_cons hcomment', hasTopBar, hbar', ha]
          rfl
        · rwa [maskFrom_cons hcomment']

theorem exists_cuts (line : List Char) : ∃ d head pieces, Cuts line d head pieces := by
  -- by induction on the length: what is left to cut begins behind the first top-level pipe
  induction hn : line.length using Nat.strong_induction_on generalizing line with
  | _ n ih =>
    cases hbar : hasTopBar 0 (mask line) with
    | false => exact ⟨_, _, _, .whole hbar⟩
    | true =>
      obtain ⟨a, b, rfl, hstate, ha, hdepth⟩ := exists_bar_of_hasTopBar (s := .outside) trivial hbar
      have hlt : b.length < n := by
        rw [← hn, List.length_append, List.length_cons]
        omega
      obtain ⟨d, head, pieces, hb⟩ := ih b.length hlt b rfl
      exact ⟨d, a, head :: pieces, .bar hstate ha hdepth hb⟩

/-- The pieces that are computed for a line are pieces of it. -/
theorem cuts_cutAtPipes (line : List Char) :
    Cuts line (cutAtPipes 0 (line.zip (mask line))).1 (cutAtPipes 0 (line.zip (mask line))).2.1
      (cutAtPipes 0 (line.zip (mask line))).2.2 := by
  obtain ⟨d, head, pieces, h⟩ := exists_cuts line
  rw [h.cutAtPipes_eq]
  exact h

/-! ### What is kept in the pieces -/

theorem Cuts.head_isPrefix (h : Cuts line d head pieces) : head <+: line := by
  cases h with
  | whole => exact List.prefix_rfl
  | bar => exact List.prefix_append _ _

theorem Cuts.hasTopBar_head (h : Cuts line d head pieces) : hasTopBar 0 (mask head) = false := by
  cases h with
  | whole hline => exact hline
  | bar _ ha => exact ha

theorem Cuts.subset_of_mem (h : Cuts line d head pieces) {piece : List Char}
    (hp : piece ∈ pieces) : piece ⊆ line := by
  induction h with
  | whole => cases hp
  | bar _ _ _ hb ih =>
    rcases List.mem_cons.mp hp with rfl | hp
    · intro c hc
      exact List.mem_append_right _ (List.mem_cons_of_mem _ (hb.head_isPrefix.subset hc))
    · intro c hc
      exact List.mem_append_right _ (List.mem_cons_of_mem _ (ih hp hc))

end QueryAssist.Layout
