import QueryAssist.Proofs.Line.Parts

/-!
# Masked lines

A masked line is made of the same parts as the line, with blanks in its literals and without its
comment. So masking it again changes nothing, and a letter behind it is blanked out exactly where it
would belong to a literal or a comment.

## Main results

* `MasksTo.concat` — a letter is shown exactly behind a line that ends in code
* `isOpenAfter_iff_mask_append_letter` — a literal is open exactly where a letter would be blanked
  out
* `MasksTo.masked` — the parts of a masked line
* `mask_keeps_columns` — masking keeps every character in its column or blanks it out, is done once
  and for all, and can be done on both sides of a cut outside of literals and comments
-/

namespace QueryAssist.Literal

variable {c : Char} {line shown : List Char} {e : Ending}

/-! ### A letter at the end -/

/-- A letter behind a line belongs to what the line ends in, and is shown if that is code. -/
theorem MasksTo.concat (h : MasksTo line shown e) (hquote : ¬ IsQuote c) (hslash : c ≠ '/')
    (hback : c ≠ '\\') :
    MasksTo (line ++ [c]) (shown ++ [if e = .code then c else ' ']) e := by
  induction h with
  | nil => exact .code hquote (fun h => absurd h hslash) .nil
  | @code d line shown e hquote' hslash' _ ih =>
    have hhead : d = '/' → (line ++ [c]).head? ≠ some '/' := by
      intro hd
      cases line with
      | nil => simpa using hslash
      | cons d line => exact hslash' hd
    exact .code hquote' hhead ih
  | @closed quote content line shown e hquote' hcontent _ ih =>
    have hclosed := MasksTo.closed hquote' hcontent ih
    simpa only [List.cons_append, List.append_assoc] using hclosed
  | @unclosed quote content tail hquote' hcontent htail =>
    have hne : c ≠ quote := by
      rintro rfl
      exact hquote hquote'
    -- the letter is protected by a backslash before it or stands for itself
    have hcontent' : IsContent quote (content ++ tail ++ [c]) := by
      rcases htail with rfl | rfl
      · rw [List.append_nil]
        exact hcontent.append (.cons hne hback .nil)
      · rw [List.append_assoc]
        exact hcontent.append (.escape .nil)
    have hunclosed := MasksTo.unclosed hquote' hcontent' (Or.inl rfl)
    rw [List.append_nil, blanked_append] at hunclosed
    exact hunclosed
  | comment rest =>
    have hcomment := MasksTo.comment (rest ++ [c])
    rwa [← List.cons_append, ← List.cons_append, blanked_append] at hcomment

/-- Unless a comment begins in the beginning of a line, a literal is open behind it exactly if
masking blanks out a letter that follows. -/
theorem isOpenAfter_iff_mask_append_letter {lineStart : List Char} (h : ¬ HasComment lineStart) :
    isOpenAfter lineStart = true ↔ (mask (lineStart ++ ['x'])).getLast? = some ' ' := by
  have hparts := masksTo_mask lineStart
  have hending : endingOf lineStart ≠ .comment := fun he => h (hasComment_iff.mpr he)
  have hletter := hparts.concat (c := 'x') (by decide) (by decide) (by decide)
  rw [hparts.isOpenAfter_iff hending, hletter.mask_eq, List.getLast?_concat]
  cases he : endingOf lineStart with
  | code => decide
  | literal => decide
  | comment => exact absurd he hending

/-- The slashes in the open literal begin no comment, and neither the apostrophe in it nor the quote
behind the backslash closes it. -/
theorem isOpenAfter_iff_mask_append_letter_url :
    ¬ HasComment "| where a / b == 'x' and url == \"http://it's\\\"".toList ∧
      isOpenAfter "| where a / b == 'x' and url == \"http://it's\\\"".toList = true ∧
      (isOpenAfter "| where a / b == 'x' and url == \"http://it's\\\"".toList = true ↔
        (mask ("| where a / b == 'x' and url == \"http://it's\\\"".toList ++ ['x'])).getLast? =
          some ' ') := by
  have h : ¬ HasComment "| where a / b == 'x' and url == \"http://it's\\\"".toList := by decide
  exact ⟨h, by decide, isOpenAfter_iff_mask_append_letter h⟩

/-- In a comment a letter is blanked out although no literal is open. -/
example : isOpenAfter "// a".toList = false ∧ (mask ("// a".toList ++ ['x'])).getLast? = some ' ' :=
  by decide

/-! ### Masking a masked line -/

theorem masksTo_blanked (line : List Char) : MasksTo (blanked line) (blanked line) .code := by
  have hquote : ¬ IsQuote ' ' := by decide
  have hslash : ' ' ≠ '/' := by decide
  induction line with
  | nil => exact .nil
  | cons c line ih => exact .code hquote (fun h => absurd h hslash) ih

theorem blanked_blanked (l : List Char) : blanked (blanked l) = blanked l := by
  rw [blanked, blanked, List.map_map]
  rfl

/-- What is shown of a line has the parts of the line, with blanks for what literals contain. Where
the comment was it goes on as code. -/
theorem MasksTo.masked (h : MasksTo line shown e) :
    MasksTo shown shown (if e = .comment then .code else e) := by
  induction h with
  | nil => exact .nil
  | code hquote hslash h ih =>
    exact .code hquote (fun hc hhead => hslash hc (h.head?_eq_slash hhead)) ih
  | @closed quote content line shown e hquote hcontent _ ih =>
    have hclosed := MasksTo.closed hquote (isContent_blanked hquote content) ih
    rwa [blanked_blanked] at hclosed
  | @unclosed quote content tail hquote hcontent htail =>
    have hunclosed :=
      MasksTo.unclosed hquote (isContent_blanked hquote (content ++ tail)) (Or.inl rfl)
    rwa [List.append_nil, blanked_blanked] at hunclosed
  | comment rest => exact masksTo_blanked _

/-- Masking keeps every character in its column or blanks it out, changes a masked line no more, and
can be done on both sides of a cut on its own where the scan is outside of literals and comments and
the cut does not come before a slash. -/
theorem mask_keeps_columns (l : List Char) :
    (mask l).length = l.length ∧
      (∀ (n : ℕ) (c : Char), (mask l)[n]? = some c → l[n]? = some c ∨ c = ' ') ∧
      mask (mask l) = mask l ∧
      ∀ a b, l = a ++ b → b.head? ≠ some '/' → stateAfter .outside a = some .outside →
        mask l = mask a ++ mask b := by
  refine ⟨length_mask l, ?columns, ?again, ?cut⟩
  case columns =>
    intro n c hc
    by_cases hspace : c = ' '
    · exact Or.inr hspace
    · exact Or.inl (getElem?_of_getElem?_maskFrom hc hspace)
  case again => exact (masksTo_mask l).masked.mask_eq
  case cut =>
    rintro a b rfl hb ha
    rw [mask, maskFrom_append .outside a hb, ha]
    rfl

/-- The cut is behind a slash and a literal with a pipe, and the comment is behind it. -/
theorem mask_keeps_columns_twoPieces :
    mask "a / 'x\\'|//' b | c // d'".toList = "a / '      ' b | c      ".toList ∧
      mask (mask "a / 'x\\'|//' b | c // d'".toList) = mask "a / 'x\\'|//' b | c // d'".toList ∧
      "| c // d'".toList.head? ≠ some '/' ∧
      stateAfter .outside "a / 'x\\'|//' b ".toList = some .outside ∧
      mask "a / 'x\\'|//' b | c // d'".toList =
        mask "a / 'x\\'|//' b ".toList ++ mask "| c // d'".toList := by
  obtain ⟨-, -, hagain, hcut⟩ := mask_keeps_columns "a / 'x\\'|//' b | c // d'".toList
  have hhead : "| c // d'".toList.head? ≠ some '/' := by decide
  have hstate : stateAfter .outside "a / 'x\\'|//' b ".toList = some .outside := by decide
  exact ⟨by decide, hagain, hhead, hstate, hcut _ _ (by decide) hhead hstate⟩

end QueryAssist.Literal
