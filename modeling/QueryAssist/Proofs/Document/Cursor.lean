import QueryAssist.Assistant
import QueryAssist.Proofs.Document.Call
import QueryAssist.Proofs.Text.Lines

/-!
# The text before the cursor

A cursor is found by stepping over lines. The beginning of its line is the last piece of all that is
before it, so what is answered at a position depends on the text before it alone. This needs a
position on a line of the text: a line beyond the end stands for the end of the text, but its
beginning is empty.

## Main results

* `Cursor.getLast?_pieces_before` — the line of the cursor begins where the text before it has its
  last line break
* `Assistant.answers_of_before_eq` — what follows the cursor does not matter
-/

namespace QueryAssist

open Text

namespace Cursor

variable {text text' : List Char} {n : Nat} {p p' : Position}

/-! ### Stepping over lines -/

theorem skipLines_zero (passed text : List Char) : skipLines 0 passed text = (passed, text) := by
  cases text <;> rfl

theorem skipLines_break (n : Nat) (passed text : List Char) :
    skipLines (n + 1) passed ('\n' :: text) = skipLines n ('\n' :: passed) text := by
  simp [skipLines]

theorem skipLines_cons_of_ne {c : Char} (h : c ≠ '\n') (n : Nat) (passed text : List Char) :
    skipLines (n + 1) passed (c :: text) = skipLines (n + 1) (c :: passed) text := by
  simp [skipLines, h]

theorem skipLines_snd_isSuffix (n : Nat) (passed text : List Char) :
    (skipLines n passed text).2 <:+ text := by
  induction text generalizing n passed with
  | nil => exact List.suffix_refl []
  | cons c text ih =>
    cases n with
    | zero => exact List.suffix_refl _
    | succ n =>
      rw [skipLines]
      split
      · exact (ih n _).trans (List.suffix_cons c text)
      · exact (ih (n + 1) _).trans (List.suffix_cons c text)

/-- Behind the last line that is stepped over there is a line break. What has been passed is given
backwards. -/
theorem exists_skipLines_succ (h : n < text.count '\n') (passed : List Char) :
    ∃ earlier, (skipLines (n + 1) passed text).1 = '\n' :: earlier := by
  induction text generalizing n passed with
  | nil => cases h
  | cons c text ih =>
    by_cases hc : c = '\n'
    · subst hc
      rw [skipLines_break]
      cases n with
      | zero => exact ⟨passed, by rw [skipLines_zero]⟩
      | succ n =>
        rw [List.count_cons_self] at h
        exact ih (Nat.lt_of_succ_lt_succ h) _
    · rw [List.count_cons_of_ne hc] at h
      rw [skipLines_cons_of_ne hc]
      exact ih h _

/-! ### The line of the cursor -/

theorem break_notMem_lineStart (text : List Char) (p : Position) :
    '\n' ∉ (locate text p).lineStart := by
  intro hmem
  have hline := mem_of_mem_dropReturn (List.mem_of_mem_take hmem)
  simpa using List.mem_takeWhile_imp hline

/-- The beginning of the cursor's line is the last piece of the text before the cursor. -/
theorem getLast?_pieces_before (h : p.line ≤ text.count '\n') :
    (pieces (locate text p).before).getLast? = some (locate text p).lineStart := by
  have hpiece : pieces (locate text p).lineStart = [(locate text p).lineStart] :=
    pieces_of_notMem (break_notMem_lineStart text p)
  have hbefore : (locate text p).before =
      (skipLines p.line [] text).1.reverse ++ (locate text p).lineStart := rfl
  rw [hbefore]
  cases hline : p.line with
  | zero => rw [skipLines_zero, List.reverse_nil, List.nil_append, hpiece, List.getLast?_singleton]
  | succ n =>
    obtain ⟨earlier, hearlier⟩ := exists_skipLines_succ (hline ▸ h) []
    rw [hearlier, List.reverse_cons, List.append_assoc, List.singleton_append, pieces_append_break,
      hpiece, List.getLast?_concat]

/-- Cursors with the same text before them stand at the same place of their lines. -/
theorem lineStart_eq_of_before_eq (hp : p.line ≤ text.count '\n') (hp' : p'.line ≤ text'.count '\n')
    (hbefore : (locate text p).before = (locate text' p').before) :
    (locate text p).lineStart = (locate text' p').lineStart := by
  have hlast := getLast?_pieces_before hp
  rw [hbefore, getLast?_pieces_before hp'] at hlast
  exact (Option.some.inj hlast).symm

end Cursor

/-! ### Answers -/

namespace Assistant

/-- The query for completions is put together from the text before the cursor. -/
theorem queryAt_congr (c : Catalog) {cursor cursor' : Cursor}
    (hbefore : cursor.before = cursor'.before) (hlineStart : cursor.lineStart = cursor'.lineStart) :
    queryAt c cursor = queryAt c cursor' := by
  rw [queryAt, queryAt, hbefore, hlineStart]

/-- At two positions in any texts with the same text before them, the same kind of name is expected,
the same completions are offered and the same signature is shown, as long as the catalog and the
properties are the same: neither what follows nor anything remembered matters. -/
theorem answers_of_before_eq {σ σ' : Type} {a : Assistant σ} {a' : Assistant σ'}
    (hcatalog : a.store.catalog = a'.store.catalog)
    (hproperties : a.settings.properties = a'.settings.properties) {text text' : String}
    {p p' : Position} (hp : p.line ≤ text.toList.count '\n')
    (hp' : p'.line ≤ text'.toList.count '\n')
    (hbefore : (Cursor.locate text.toList p).before = (Cursor.locate text'.toList p').before)
    (cancelled : Bool) :
    contextAt text p = contextAt text' p' ∧
      a.completions text p cancelled = a'.completions text' p' cancelled ∧
      a.signatureAt text p cancelled = a'.signatureAt text' p' cancelled := by
  have hlineStart := Cursor.lineStart_eq_of_before_eq hp hp' hbefore
  refine ⟨?_, ?_, ?_⟩
  · rw [contextAt, contextAt, hlineStart]
  · simp only [completions, hcatalog, hproperties, queryAt_congr _ hbefore hlineStart]
  · rw [signatureAt, signatureAt, hcatalog, hbefore]

/-- On a line beyond the end the same text is before the cursor, but its line is another one. -/
example : (Cursor.locate "T | ".toList ⟨1, 0⟩).before = (Cursor.locate "T | ".toList ⟨0, 4⟩).before ∧
    contextAt "T | " ⟨1, 0⟩ = .startOfStatement ∧ contextAt "T | " ⟨0, 4⟩ = .afterPipe := by
  decide +kernel

/-- The cursor is in the second argument of a call. One text goes on with a comment, the other one
ends in a literal that is open, and its position is beyond the end of the line. -/
theorem answers_of_before_eq_openCall :
    let a := start (.ofCatalog Catalog.concatenation) {} 0
    let a' := (start (.ofCatalog Catalog.concatenation) {} 7).closeDocument "q"
    let text := "Logs\r\n| where strcat(a, \r\n, b) // c"
    let text' := "Logs\r\n| where strcat(a, "
    a.store.catalog = a'.store.catalog ∧ a.settings.properties = a'.settings.properties ∧
      1 ≤ text.toList.count '\n' ∧ 1 ≤ text'.toList.count '\n' ∧
      (Cursor.locate text.toList ⟨1, 18⟩).before = (Cursor.locate text'.toList ⟨1, 99⟩).before ∧
      contextAt text ⟨1, 18⟩ = contextAt text' ⟨1, 99⟩ ∧
      a.completions text ⟨1, 18⟩ false = a'.completions text' ⟨1, 99⟩ false ∧
      a.signatureAt text ⟨1, 18⟩ false = a'.signatureAt text' ⟨1, 99⟩ false := by
  intro a a' text text'
  have hp : 1 ≤ text.toList.count '\n' := by decide
  have hp' : 1 ≤ text'.toList.count '\n' := by decide
  have hbefore : (Cursor.locate text.toList ⟨1, 18⟩).before =
      (Cursor.locate text'.toList ⟨1, 99⟩).before := by decide
  exact ⟨rfl, rfl, hp, hp', hbefore, answers_of_before_eq rfl rfl hp hp' hbefore false⟩

end Assistant

end QueryAssist
