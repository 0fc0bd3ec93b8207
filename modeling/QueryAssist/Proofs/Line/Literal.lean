import QueryAssist.Line.Literal
import QueryAssist.Proofs.Text.Blank

/-!
# Masking piece by piece

Where a line is cut outside of literals and comments, the two sides can be masked on their own.
Blanks at the ends of a piece make no difference to the rest of it.

## Main definitions

* `Literal.stateAfter` — where a scan stands after a piece, unless a comment has begun in it
* `Literal.State.IsProper` — the states that a scan can reach

## Main results

* `getElem?_of_getElem?_maskFrom` — masking leaves characters in their columns
* `maskFrom_append` — masking a text in two pieces
* `mask_append_bar` — masking on both sides of a pipe outside of literals and comments
* `exists_maskFrom_eq_append` — blanks at the end of a text are masked as blanks
-/

namespace QueryAssist.Literal

open Text

variable {s s' : State} {a b rest : List Char} {c : Char}

/-- Where a scan that enters a piece in state `s` stands behind it; nothing if a comment begins in
the piece. -/
def stateAfter : State → List Char → Option State
  | s, [] => some s
  | s, c :: rest => if s.opensComment c rest then none else stateAfter (s.next c) rest

/-- A literal is closed by one of the two quotes. -/
def State.IsProper : State → Prop
  | .outside => True
  | .inside quote _ => quote = '\'' ∨ quote = '"'

theorem State.isProper_outside : State.IsProper .outside := trivial

theorem State.IsProper.next (h : s.IsProper) (c : Char) : (s.next c).IsProper := by
  match s, h with
  | .outside, _ =>
    rw [State.next]
    split
    · assumption
    · trivial
  | .inside _ true, h => exact h
  | .inside quote false, h =>
    rw [State.next]
    split
    · exact h
    · split
      · trivial
      · exact h

/-- A pipe is shown only where there is one outside of literals. -/
theorem State.IsProper.eq_outside_of_shown (h : s.IsProper) (hc : s.shown c = '|') :
    s = .outside ∧ c = '|' := by
  match s, h with
  | .outside, _ => exact ⟨rfl, hc⟩
  | .inside _ true, _ => cases hc
  | .inside quote false, h =>
    simp only [State.shown] at hc
    split at hc
    · rename_i hquote
      rcases h with rfl | rfl <;> simp_all
    · cases hc

theorem State.isBlank_shown (s : State) (hc : isBlank c = true) :
    isBlank (s.shown c) = true := by
  match s with
  | .outside => exact hc
  | .inside _ true => rfl
  | .inside quote false =>
    rw [State.shown]
    split
    · exact hc
    · rfl

/-- No comment begins with a character that is not a slash. -/
theorem State.opensComment_of_ne (s : State) (hc : c ≠ '/') (rest : List Char) :
    s.opensComment c rest = false := by
  simp [State.opensComment, hc]

/-- Whether a comment begins is not changed by adding something that does not begin with a
slash. -/
theorem State.opensComment_append (s : State) (hb : b.head? ≠ some '/') (c : Char)
    (rest : List Char) : s.opensComment c (rest ++ b) = s.opensComment c rest := by
  cases rest with
  | nil =>
    have hb' : (b.head? == some '/') = false := by simpa using hb
    simp [State.opensComment, hb']
  | cons d rest => rfl

theorem maskFrom_cons_of_opensComment (h : s.opensComment c rest = true) :
    maskFrom s (c :: rest) = blanked (c :: rest) := by
  rw [maskFrom, if_pos h]

theorem maskFrom_cons (h : s.opensComment c rest = false) :
    maskFrom s (c :: rest) = s.shown c :: maskFrom (s.next c) rest := by
  rw [maskFrom, h, if_neg Bool.false_ne_true]

theorem stateAfter_cons (h : s.opensComment c rest = false) :
    stateAfter s (c :: rest) = stateAfter (s.next c) rest := by
  rw [stateAfter, h, if_neg Bool.false_ne_true]

@[simp] theorem length_blanked (l : List Char) : (blanked l).length = l.length := List.length_map _

theorem blanked_append (a b : List Char) : blanked (a ++ b) = blanked a ++ blanked b := by
  rw [blanked, List.map_append, blanked, blanked]

theorem isBlankText_blanked (l : List Char) : IsBlankText (blanked l) := by
  intro c hc
  obtain ⟨_, _, rfl⟩ := List.mem_map.mp hc
  rfl

/-- Masking keeps the columns. -/
@[simp] theorem length_maskFrom (s : State) (l : List Char) :
    (maskFrom s l).length = l.length := by
  induction l generalizing s with
  | nil => rfl
  | cons c rest ih =>
    cases h : s.opensComment c rest with
    | true => rw [maskFrom_cons_of_opensComment h, length_blanked]
    | false => rw [maskFrom_cons h, List.length_cons, List.length_cons, ih]

@[simp] theorem length_mask (l : List Char) : (mask l).length = l.length := length_maskFrom _ l

/-- What masking leaves of a character is the character or a space. -/
theorem State.shown_eq_or (s : State) (c : Char) : s.shown c = c ∨ s.shown c = ' ' := by
  match s with
  | .outside => exact Or.inl rfl
  | .inside _ true => exact Or.inr rfl
  | .inside quote false =>
    rw [State.shown]
    split
    · exact Or.inl rfl
    · exact Or.inr rfl

/-- A character of the masked text other than a space stands in the text in the same column. -/
theorem getElem?_of_getElem?_maskFrom {n : Nat} {l : List Char}
    (h : (maskFrom s l)[n]? = some c) (hc : c ≠ ' ') : l[n]? = some c := by
  induction l generalizing s n with
  | nil => cases h
  | cons d rest ih =>
    cases hopens : s.opensComment d rest with
    | true =>
      rw [maskFrom_cons_of_opensComment hopens] at h
      have hspace : c ∈ blanked (d :: rest) := List.mem_of_getElem? h
      obtain ⟨_, -, rfl⟩ := List.mem_map.mp hspace
      exact (hc rfl).elim
    | false =>
      rw [maskFrom_cons hopens] at h
      cases n with
      | zero =>
        obtain rfl : s.shown d = c := Option.some.inj h
        rw [(s.shown_eq_or d).resolve_right hc]
        rfl
      | succ n => exact ih h

/-- A text is masked in two pieces: behind the first one the scan goes on where it stands, or
everything is part of a comment. -/
theorem maskFrom_append (s : State) (a : List Char) (hb : b.head? ≠ some '/') :
    maskFrom s (a ++ b) =
      maskFrom s a ++ (stateAfter s a).elim (blanked b) fun s' => maskFrom s' b := by
  induction a generalizing s with
  | nil => rfl
  | cons c a ih =>
    have hadd := s.opensComment_append hb c a
    cases h : s.opensComment c a with
    | true =>
      -- a comment that begins in the first piece takes up the second one
      rw [List.cons_append, maskFrom_cons_of_opensComment (hadd.trans h),
        maskFrom_cons_of_opensComment h, stateAfter, if_pos h, Option.elim_none]
      exact blanked_append (c :: a) b
    | false =>
      rw [List.cons_append, maskFrom_cons (hadd.trans h), maskFrom_cons h, stateAfter_cons h, ih]
      rfl

/-- A pipe outside of literals and comments leaves the scan outside, so both sides of it are
masked on their own. -/
theorem mask_append_bar (h : stateAfter .outside a = some .outside) (b : List Char) :
    mask (a ++ '|' :: b) = mask a ++ '|' :: mask b := by
  have hbar : (State.outside).opensComment '|' b = false := State.opensComment_of_ne _ (by decide) b
  rw [mask, maskFrom_append .outside a (by simp), h, Option.elim_some, maskFrom_cons hbar]
  rfl

/-- A text without quotes and slashes has neither literals nor comments. -/
theorem mask_of_notMem (hsingle : '\'' ∉ a) (hdouble : '"' ∉ a) (hslash : '/' ∉ a) :
    mask a = a := by
  induction a with
  | nil => rfl
  | cons c a ih =>
    rw [List.mem_cons, not_or] at hsingle hdouble hslash
    have hnext : State.next .outside c = .outside := by
      rw [State.next, if_neg]
      rintro (rfl | rfl)
      · exact hsingle.1 rfl
      · exact hdouble.1 rfl
    rw [mask, maskFrom_cons (State.opensComment_of_ne _ (Ne.symm hslash.1) a), hnext]
    exact congrArg (c :: ·) (ih hsingle.2 hdouble.2 hslash.2)

/-! ### Blanks -/

theorem isBlankText_maskFrom (s : State) (hb : IsBlankText b) : IsBlankText (maskFrom s b) := by
  induction b generalizing s with
  | nil => exact isBlankText_nil
  | cons c b ih =>
    obtain ⟨hc, hb⟩ := isBlankText_cons.mp hb
    have hslash : c ≠ '/' := ne_of_isBlank hc isBlank_slash
    rw [maskFrom_cons (s.opensComment_of_ne hslash b), isBlankText_cons]
    exact ⟨s.isBlank_shown hc, ih (s.next c) hb⟩

theorem head?_ne_slash_of_blank (hb : IsBlankText b) : b.head? ≠ some '/' := by
  intro h
  exact hb.notMem isBlank_slash (List.mem_of_head? h)

/-- Blanks at the end of a text are masked as blanks. -/
theorem exists_maskFrom_eq_append (s : State) (a : List Char) (hb : IsBlankText b) :
    ∃ b', IsBlankText b' ∧ maskFrom s (a ++ b) = maskFrom s a ++ b' := by
  rw [maskFrom_append s a (head?_ne_slash_of_blank hb)]
  refine ⟨_, ?_, rfl⟩
  cases stateAfter s a with
  | none => exact isBlankText_blanked b
  | some s' => exact isBlankText_maskFrom s' hb

theorem exists_mask_eq_mask_trimEnd_append (line : List Char) :
    ∃ b, IsBlankText b ∧ mask line = mask (trimEnd line) ++ b := by
  obtain ⟨b, hb, hline⟩ := exists_eq_trimEnd_append line
  obtain ⟨b', hb', hmask⟩ := exists_maskFrom_eq_append .outside (trimEnd line) hb
  rw [← hline] at hmask
  exact ⟨b', hb', hmask⟩

/-- No blank is a quote. -/
theorem State.next_outside_of_isBlank (hc : isBlank c = true) :
    State.next .outside c = .outside := by
  rw [State.next, if_neg]
  rintro (rfl | rfl) <;> exact absurd hc (by decide)

/-- Blanks outside of literals are shown as they are and leave the scan outside. -/
theorem mask_blank_append (ha : IsBlankText a) (b : List Char) :
    mask (a ++ b) = a ++ mask b ∧ stateAfter .outside a = some .outside := by
  induction a with
  | nil => exact ⟨rfl, rfl⟩
  | cons c a ih =>
    obtain ⟨hc, ha⟩ := isBlankText_cons.mp ha
    have hnext := State.next_outside_of_isBlank hc
    have hslash : c ≠ '/' := ne_of_isBlank hc isBlank_slash
    constructor
    · rw [mask, List.cons_append, maskFrom_cons (State.opensComment_of_ne _ hslash _), hnext]
      exact congrArg (c :: ·) (ih ha).1
    · rw [stateAfter_cons (State.opensComment_of_ne _ hslash _), hnext]
      exact (ih ha).2

theorem mask_of_blank (ha : IsBlankText a) : mask a = a := by
  have h := (mask_blank_append ha []).1
  rw [List.append_nil] at h
  exact h.trans (List.append_nil a)

/-- Blanks at both ends of a text are masked as blanks. -/
theorem exists_mask_eq_append_mask_trim_append (piece : List Char) :
    ∃ x y, IsBlankText x ∧ IsBlankText y ∧ mask piece = x ++ mask (trim piece) ++ y := by
  obtain ⟨x, y, hx, hy, hpiece⟩ := exists_eq_append_trim_append piece
  obtain ⟨y', hy', hmask⟩ := exists_maskFrom_eq_append .outside (trim piece) hy
  refine ⟨x, y', hx, hy', ?_⟩
  conv_lhs => rw [hpiece, List.append_assoc, (mask_blank_append hx _).1, mask, hmask]
  rw [List.append_assoc, mask]

end QueryAssist.Literal
