import QueryAssist.Proofs.Text.Lines

/-!
# Line breaks with a `\r`

A line break is written with or without a `\r` before it. In a text without any `\r`, putting one
before every line break changes no line.

## Main definitions

* `Text.withReturns` — the text with a `\r` before every line break

## Main results

* `pieces_withReturns` — all pieces but the last one end in a `\r` then
* `lines_withReturns`, `endsInLineBreak_withReturns` — the lines are the same
-/

namespace QueryAssist.Text

variable {text line last : List Char} {ls : List (List Char)} {c : Char}

/-- The text with a `\r` before every line break. -/
def withReturns (text : List Char) : List Char :=
  text.flatMap fun c => if c = '\n' then ['\r', '\n'] else [c]

@[simp] theorem withReturns_nil : withReturns [] = [] := rfl

theorem withReturns_append (a b : List Char) :
    withReturns (a ++ b) = withReturns a ++ withReturns b := List.flatMap_append

theorem withReturns_break (text : List Char) :
    withReturns ('\n' :: text) = '\r' :: '\n' :: withReturns text := rfl

theorem withReturns_cons_of_ne (h : c ≠ '\n') (text : List Char) :
    withReturns (c :: text) = c :: withReturns text := by
  rw [withReturns, List.flatMap_cons, if_neg h, List.singleton_append, withReturns]

/-- A line stays as it is. -/
theorem withReturns_of_notMem (h : '\n' ∉ line) : withReturns line = line := by
  induction line with
  | nil => rfl
  | cons c line ih =>
    rw [List.mem_cons, not_or] at h
    rw [withReturns_cons_of_ne (Ne.symm h.1), ih h.2]

/-! ### Pieces and lines -/

theorem withReturns_joinLines (hls : ∀ l ∈ ls, '\n' ∉ l) (hlast : '\n' ∉ last) :
    withReturns (joinLines (ls ++ [last])) = joinLines (ls.map (· ++ ['\r']) ++ [last]) := by
  induction ls with
  | nil => exact withReturns_of_notMem hlast
  | cons line ls ih =>
    have hline : withReturns line = line := withReturns_of_notMem (hls line List.mem_cons_self)
    have hjoin : ∀ (l : List Char) (ls : List (List Char)),
        joinLines (l :: (ls ++ [last])) = l ++ '\n' :: joinLines (ls ++ [last]) := by
      intro l ls
      cases ls <;> rfl
    rw [List.cons_append, hjoin, withReturns_append, hline, withReturns_break,
      ih fun l hl => hls l (List.mem_cons_of_mem line hl), List.map_cons, List.cons_append, hjoin,
      List.append_assoc, List.singleton_append]

/-- Every piece but the last one ends in a `\r` that belongs to the line break behind it. -/
theorem pieces_withReturns (h : pieces text = ls ++ [last]) :
    pieces (withReturns text) = ls.map (· ++ ['\r']) ++ [last] := by
  have hbreak : ∀ l ∈ ls ++ [last], '\n' ∉ l := fun l hl => notMem_of_mem_pieces (h ▸ hl)
  have hls : ∀ l ∈ ls, '\n' ∉ l := fun l hl => hbreak l (List.mem_append_left _ hl)
  have hlast : '\n' ∉ last := hbreak last (by simp)
  have hbreak' : ∀ l ∈ ls.map (· ++ ['\r']) ++ [last], '\n' ∉ l := by
    simpa [or_imp, forall_and, hlast] using hls
  rw [← joinLines_pieces text, h, withReturns_joinLines hls hlast]
  exact pieces_joinLines hbreak' (by simp)

theorem dropReturn_append_return (line : List Char) : dropReturn (line ++ ['\r']) = line := by
  simp [dropReturn]

theorem dropReturn_of_notMem (h : '\r' ∉ line) : dropReturn line = line :=
  dropReturn_of_getLast?_ne fun hlast => h (List.mem_of_getLast? hlast)

theorem subset_joinLines_of_mem (h : line ∈ ls) : line ⊆ joinLines ls := by
  induction ls with
  | nil => cases h
  | cons l ls ih =>
    intro c hc
    cases ls with
    | nil => exact List.mem_singleton.mp h ▸ hc
    | cons next rest =>
      rcases List.mem_cons.mp h with rfl | h
      · exact List.mem_append_left _ hc
      · exact List.mem_append_right _ (List.mem_cons_of_mem _ (ih h hc))

/-- A piece of a text is part of it. -/
theorem subset_of_mem_pieces (h : line ∈ pieces text) : line ⊆ text := by
  have hsubset := subset_joinLines_of_mem h
  rwa [joinLines_pieces] at hsubset

/-- The lines of a text do not depend on how its line breaks are written. -/
theorem lines_withReturns (h : '\r' ∉ text) : lines (withReturns text) = lines text := by
  obtain ⟨ls, last, hpieces⟩ := exists_pieces_eq text
  have hkept : ∀ l ∈ ls, dropReturn l = l := fun l hl =>
    dropReturn_of_notMem fun hr =>
      h (subset_of_mem_pieces (hpieces ▸ List.mem_append_left _ hl) hr)
  have hdropped : ∀ l ∈ ls, dropReturn (l ++ ['\r']) = dropReturn l := fun l hl => by
    rw [dropReturn_append_return, hkept l hl]
  rw [lines_eq_of_pieces hpieces, lines_eq_of_pieces (pieces_withReturns hpieces), List.map_map]
  exact congrArg (· ++ _) (List.map_congr_left hdropped)

theorem endsInLineBreak_withReturns (text : List Char) :
    endsInLineBreak (withReturns text) = endsInLineBreak text := by
  obtain ⟨ls, last, hpieces⟩ := exists_pieces_eq text
  rw [Bool.eq_iff_iff, endsInLineBreak_iff hpieces,
    endsInLineBreak_iff (pieces_withReturns hpieces), ne_eq, ne_eq, List.map_eq_nil_iff]

end QueryAssist.Text
