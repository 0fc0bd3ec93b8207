import Mathlib.Data.List.Forall2
import QueryAssist.Document.Call
import QueryAssist.Proofs.Diagnostic.Lines

/-!
# What stands in literals and comments

Looking through a document asks three things about a line as it is written: whether it is blank,
whether it is a comment, and whether it begins with a pipe. All three can be told from the line with
its literals and comments blanked out. So what a literal or a comment contains has no influence on
the diagnostics of a text or on the signature of a call.

## Main definitions

* `Literal.SameMasks` — lines that differ in literals and comments only
* `Diagnostic.ofMasked` — the diagnostics of a line with its literals and comments blanked out

## Main results

* `head?_trimStart_mask` — the first character of a blanked out line
* `ofLine_eq_ofMasked` — the diagnostics of a line depend on the blanked out line
* `scan_and_signature?_of_sameMasks` — texts with the same blanked out lines have the same
  diagnostics and signatures
-/

namespace QueryAssist

open Text Literal

variable {s : List Char} {ls ls' : List (List Char)}

/-! ### The first character of a line -/

namespace Text

theorem isBlank_of_trimStart_eq_cons {c : Char} {rest : List Char}
    (h : trimStart s = c :: rest) : isBlank c = false := by
  have hhead := List.head?_dropWhile_not isBlank s
  rw [← trimStart, h] at hhead
  simpa using hhead

theorem head?_trim (s : List Char) : (trim s).head? = (trimStart s).head? := by
  rw [trim]
  cases h : trimStart s with
  | nil => rfl
  | cons c rest =>
    -- the first character is not blank, so it is kept
    have hc : trimEnd [c] = [c] := by
      simp [trimEnd, isBlank_of_trimStart_eq_cons h]
    have hprefix : [c] <+: trimEnd (c :: rest) := isPrefix_trimEnd ⟨rest, rfl⟩ hc
    obtain ⟨later, hlater⟩ := hprefix
    rw [← hlater]
    rfl

theorem isPrefixOf_trim_comment (s : List Char) :
    "//".toList.isPrefixOf (trim s) = "//".toList.isPrefixOf (trimStart s) := by
  rw [Bool.eq_iff_iff, List.isPrefixOf_iff_prefix, List.isPrefixOf_iff_prefix]
  constructor
  · intro h
    exact h.trans (trimEnd_isPrefix _)
  · intro h
    exact isPrefix_trimEnd h (by decide)

end Text

namespace Literal

/-- A comment is blanked out, and a line that is no comment keeps its first character. -/
theorem head?_trimStart_mask (raw : List Char) :
    (trimStart (mask raw)).head? =
      if "//".toList.isPrefixOf (trimStart raw) then none else (trimStart raw).head? := by
  have hmask : mask raw = leadingBlanks raw ++ mask (trimStart raw) := by
    conv_lhs => rw [← leadingBlanks_append_trimStart raw]
    exact (mask_blank_append (isBlankText_leadingBlanks raw) _).1
  rw [hmask, trimStart_append_of_blank (isBlankText_leadingBlanks raw)]
  cases h : trimStart raw with
  | nil => rfl
  | cons c rest =>
    have hcomment : (State.outside).opensComment c rest = "//".toList.isPrefixOf (c :: rest) := by
      rw [Bool.eq_iff_iff]
      cases rest <;> simp [State.opensComment, eq_comm (a := '/')]
    cases hopens : (State.outside).opensComment c rest with
    | true =>
      have hblank : trimStart (mask (c :: rest)) = [] := by
        rw [mask, maskFrom_cons_of_opensComment hopens]
        exact trimStart_eq_nil_iff.mpr (isBlankText_blanked _)
      rw [hblank, ← hcomment, hopens]
      rfl
    | false =>
      have hc : ¬ isBlank c = true := Bool.eq_false_iff.mp (isBlank_of_trimStart_eq_cons h)
      rw [← hcomment, hopens, mask, maskFrom_cons hopens, trimStart,
        List.dropWhile_cons_of_neg (by exact hc)]
      rfl

/-- There are as many lines, and each differs from the other one at its place in what literals and
comments contain. -/
def SameMasks (ls ls' : List (List Char)) : Prop :=
  List.Forall₂ (fun line line' => mask line = mask line') ls ls'

instance : DecidableRel SameMasks := fun ls ls' =>
  inferInstanceAs (Decidable (List.Forall₂ _ ls ls'))

theorem sameMasks_iff : SameMasks ls ls' ↔ ls.map mask = ls'.map mask := by
  rw [← List.forall₂_eq_eq_eq, List.forall₂_map_left_iff, List.forall₂_map_right_iff, SameMasks]

end Literal

/-! ### Diagnostics -/

namespace Diagnostic

variable {c : Catalog} {settings : Settings} {lineNumber : Nat}

/-- The diagnostics of a line whose literals and comments have been blanked out. -/
def ofMasked (c : Catalog) (settings : Settings) (lineNumber : Nat) (line : List Char) :
    List Diagnostic :=
  match (trimStart line).head? with
  | none => []
  | some first =>
    ofStatementStart c settings lineNumber line ++ ofPipedWords c settings lineNumber line ++
      (if settings.pipeStyleHints && first != '|' then ofInlinePipe lineNumber line else [])

/-- The diagnostics of a line can be told from the line without its literals and comments. -/
theorem ofLine_eq_ofMasked (c : Catalog) (settings : Settings) (lineNumber : Nat)
    (raw : List Char) :
    ofLine c settings lineNumber raw = ofMasked c settings lineNumber (mask raw) := by
  have hempty : (trim raw).isEmpty = (trimStart raw).head?.isNone := by
    rw [← head?_trim]
    cases trim raw <;> rfl
  rw [ofLine, ofMasked, head?_trimStart_mask]
  dsimp only
  rw [hempty, isPrefixOf_trim_comment, head?_trim]
  cases "//".toList.isPrefixOf (trimStart raw) with
  | true => simp
  | false =>
    cases (trimStart raw).head? with
    | none => rfl
    | some first => rfl

theorem ofLines_congr (h : SameMasks ls ls') (k : Nat) :
    ofLines c settings k ls = ofLines c settings k ls' := by
  induction h generalizing k with
  | nil => rfl
  | cons hmask _ ih =>
    rw [ofLines_cons, ofLines_cons, ofLine_eq_ofMasked, hmask, ← ofLine_eq_ofMasked, ih]

end Diagnostic

/-- What literals and comments contain has no influence. Texts whose lines are the same without it
have the same diagnostics, whether or not a `\r` before a line break counts as part of the line, and
texts whose pieces between line breaks are the same without it have the same signature. -/
theorem scan_and_signature?_of_sameMasks (c : Catalog) (settings : Settings)
    (text text' : List Char) :
    (SameMasks (lines text) (lines text') ∨ SameMasks (pieces text) (pieces text') →
        Diagnostic.scan c settings text = Diagnostic.scan c settings text') ∧
      (SameMasks (pieces text) (pieces text') → c.signature? text = c.signature? text') := by
  constructor
  · rintro (h | h)
    · exact congrArg Diagnostic.sorted (Diagnostic.ofLines_congr h 0)
    · rw [Diagnostic.scan_eq_sorted_ofLines_pieces, Diagnostic.ofLines_congr h,
        ← Diagnostic.scan_eq_sorted_ofLines_pieces]
  · intro h
    have hmasked : Call.maskLines text = Call.maskLines text' := by
      rw [Call.maskLines, sameMasks_iff.mp h, Call.maskLines]
    rw [Catalog.signature?, hmasked, Catalog.signature?]

/-- A catalog with a table, an operator and a function. -/
def rowsAndStrcat : Catalog :=
  (((∅ : Catalog).addTable { name := "Rows" }).addOperator { name := "where" }).addFunction
    { name := "strcat" }

/-- A text with a pipe and an escaped quote in its literals, and a parenthesis in a comment. -/
def callText : List Char := "Foo 'a|b' | wher strcat(\"\\\"(\", // )\n  // |\n x, ".toList

/-- The same text with other literals and comments. -/
def otherCallText : List Char := "Foo 'xyz' | wher strcat(\"abc\", // |\n  //(,\n x, ".toList

/-- The texts have unknown names, and a call is open at their end. -/
theorem scan_and_signature?_of_sameMasks_callText :
    callText ≠ otherCallText ∧ SameMasks (lines callText) (lines otherCallText) ∧
      SameMasks (pieces callText) (pieces otherCallText) ∧
      Diagnostic.scan rowsAndStrcat {} callText = Diagnostic.scan rowsAndStrcat {} otherCallText ∧
      rowsAndStrcat.signature? callText = rowsAndStrcat.signature? otherCallText ∧
      (rowsAndStrcat.signature? callText).isSome := by
  have hlines : SameMasks (lines callText) (lines otherCallText) := by decide
  have hpieces : SameMasks (pieces callText) (pieces otherCallText) := by decide
  obtain ⟨hscan, hsignature⟩ :=
    scan_and_signature?_of_sameMasks rowsAndStrcat {} callText otherCallText
  exact ⟨by decide, hlines, hpieces, hscan (Or.inl hlines), hsignature hpieces, by decide +kernel⟩

end QueryAssist
