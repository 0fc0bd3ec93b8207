import QueryAssist.Proofs.Document.Cursor
import QueryAssist.Proofs.Document.Parenthesis
import QueryAssist.Proofs.Line.Literal
import QueryAssist.Proofs.Text.Returns

/-!
# Answers do not depend on line breaks

What is read of a document are its lines, and the parentheses, commas and names in it. None of
these is changed by a `\r` before a line break, although the parts of the assistant take a `\r` for
different things: a part of the line break, a blank at the end of a line, or what is left of it in
a literal or a comment.

## Main definitions

* `Call.HasBlanks` — a text with blanks put in before some of its line breaks
* `Assistant.SameAnswers` — two texts get the same answers at a position

## Main results

* `Cursor.locate_withReturns` — the cursor stands at the same place of the same line
* `Catalog.tableScope?_withReturns`, `Catalog.signature?_withReturns`,
  `Diagnostic.scan_withReturns`, `Layout.alignPipes_withReturns` — the parts of the assistant
* `Assistant.sameAnswers_withReturns` — all answers are the same
-/

namespace QueryAssist

open Text

/-! ### The cursor -/

namespace Cursor

variable {text rest : List Char} {n : Nat}

/-- The same lines are stepped over. What has been passed is given backwards. -/
theorem skipLines_withReturns (n : Nat) (passed text : List Char) :
    skipLines n (withReturns passed.reverse).reverse (withReturns text) =
      ((withReturns (skipLines n passed text).1.reverse).reverse,
        withReturns (skipLines n passed text).2) := by
  induction text generalizing n passed with
  | nil => rfl
  | cons c text ih =>
    cases n with
    | zero => rw [skipLines_zero, skipLines_zero]
    | succ n =>
      by_cases hc : c = '\n'
      · subst hc
        have hpassed : (withReturns ('\n' :: passed).reverse).reverse =
            '\n' :: '\r' :: (withReturns passed.reverse).reverse := by
          rw [List.reverse_cons, withReturns_append, List.reverse_append]
          rfl
        rw [withReturns_break, skipLines_cons_of_ne (by decide), skipLines_break, ← hpassed, ih,
          skipLines_break]
      · have hpassed : (withReturns (c :: passed).reverse).reverse =
            c :: (withReturns passed.reverse).reverse := by
          rw [List.reverse_cons, withReturns_append, List.reverse_append,
            withReturns_cons_of_ne hc]
          rfl
        rw [withReturns_cons_of_ne hc, skipLines_cons_of_ne hc, ← hpassed, ih,
          skipLines_cons_of_ne hc]

/-- In front of the first line break there is a `\r` more, or nothing new if there is no break. -/
theorem takeWhile_withReturns (rest : List Char) :
    (withReturns rest).takeWhile (· != '\n') = rest.takeWhile (· != '\n') ∨
      (withReturns rest).takeWhile (· != '\n') = rest.takeWhile (· != '\n') ++ ['\r'] := by
  induction rest with
  | nil => exact Or.inl rfl
  | cons c rest ih =>
    by_cases hc : c = '\n'
    · subst hc
      exact Or.inr rfl
    · have htake : ∀ text, (c :: text).takeWhile (· != '\n') = c :: text.takeWhile (· != '\n') :=
        fun _ => List.takeWhile_cons_of_pos (by simpa using hc)
      rw [withReturns_cons_of_ne hc, htake, htake]
      exact ih.imp (congrArg (c :: ·)) (congrArg (c :: ·))

/-- The line that a text begins with is the same without the `\r` of its line break. -/
theorem dropReturn_takeWhile_withReturns (h : '\r' ∉ rest) :
    dropReturn ((withReturns rest).takeWhile (· != '\n')) =
      dropReturn (rest.takeWhile (· != '\n')) := by
  have hreturn : '\r' ∉ rest.takeWhile (· != '\n') := fun hmem =>
    h (List.takeWhile_subset _ hmem)
  rcases takeWhile_withReturns rest with htake | htake
  · rw [htake]
  · rw [htake, dropReturn_append_return, dropReturn_of_notMem hreturn]

/-- The cursor stands at the same place of the same line. -/
theorem locate_withReturns (h : '\r' ∉ text) (p : Position) :
    locate (withReturns text) p =
      { locate text p with before := withReturns (locate text p).before } := by
  have hskip := skipLines_withReturns p.line [] text
  have hrest : '\r' ∉ (skipLines p.line [] text).2 := fun hmem =>
    h ((skipLines_snd_isSuffix p.line [] text).subset hmem)
  have hbreak := break_notMem_lineStart text p
  rw [List.reverse_nil, withReturns_nil, List.reverse_nil] at hskip
  unfold locate at hbreak ⊢
  simp only [hskip, dropReturn_takeWhile_withReturns hrest, List.reverse_reverse,
    withReturns_append, withReturns_of_notMem hbreak]

end Cursor

/-! ### The table in force -/

namespace TableScope

theorem dropReturns_append_return (line : List Char) :
    dropReturns (line ++ ['\r']) = dropReturns line := by
  simp [dropReturns]

theorem netDepth_append_return (line : List Char) : netDepth (line ++ ['\r']) = netDepth line := by
  rw [netDepth_append, netDepth_eq_zero (s := ['\r']) (by decide) (by decide), add_zero]

theorem ofLines?_map_append_return (c : Catalog) (later : Int) (ls : List (List Char)) :
    ofLines? c later (ls.map (· ++ ['\r'])) = ofLines? c later ls := by
  induction ls generalizing later with
  | nil => rfl
  | cons line ls ih =>
    rw [List.map_cons, ofLines?, ofLines?, dropReturns_append_return, netDepth_append_return, ih]

end TableScope

/-- The table in force is the same. -/
theorem Catalog.tableScope?_withReturns (c : Catalog) (before : List Char) :
    c.tableScope? (withReturns before) = c.tableScope? before := by
  obtain ⟨ls, last, hpieces⟩ := exists_pieces_eq before
  rw [tableScope?, tableScope?, hpieces, pieces_withReturns hpieces, List.reverse_append,
    List.reverse_append, ← List.map_reverse, List.reverse_singleton, List.singleton_append,
    List.singleton_append, TableScope.ofLines?, TableScope.ofLines?,
    TableScope.ofLines?_map_append_return]

/-! ### The call around the cursor -/

namespace Call

variable {s t b : List Char}

/-- The second text is the first one with blanks put in before some of its line breaks. Both are
given backwards. -/
inductive HasBlanks : List Char → List Char → Prop
  | nil : HasBlanks [] []
  | cons (c : Char) {s t : List Char} (h : HasBlanks s t) : HasBlanks (c :: s) (c :: t)
  | blank {b s t : List Char} (hb : IsBlankText b) (h : HasBlanks s t) :
      HasBlanks ('\n' :: s) ('\n' :: (b ++ t))

theorem HasBlanks.refl (s : List Char) : HasBlanks s s := by
  induction s with
  | nil => exact .nil
  | cons c s ih => exact .cons c ih

theorem HasBlanks.append_left (h : HasBlanks s t) (l : List Char) :
    HasBlanks (l ++ s) (l ++ t) := by
  induction l with
  | nil => exact h
  | cons c l ih => exact .cons c ih

theorem HasBlanks.dropWhile_isBlank (h : HasBlanks s t) :
    HasBlanks (s.dropWhile isBlank) (t.dropWhile isBlank) := by
  induction h with
  | nil => exact .nil
  | cons c h ih =>
    cases hc : isBlank c with
    | true => rwa [List.dropWhile_cons_of_pos hc, List.dropWhile_cons_of_pos hc]
    | false =>
      rw [List.dropWhile_cons_of_neg (Bool.eq_false_iff.mp hc),
        List.dropWhile_cons_of_neg (Bool.eq_false_iff.mp hc)]
      exact .cons c h
  | blank hb _ ih =>
    have hbreak : isBlank '\n' = true := by decide
    rwa [List.dropWhile_cons_of_pos hbreak, List.dropWhile_cons_of_pos hbreak,
      List.dropWhile_append_of_pos hb]

/-- A run of characters other than line breaks is the same in both texts. -/
theorem HasBlanks.takeWhile_eq (h : HasBlanks s t) {p : Char → Bool} (hp : p '\n' = false) :
    s.takeWhile p = t.takeWhile p := by
  induction h with
  | nil => rfl
  | cons c _ ih => rw [List.takeWhile_cons, List.takeWhile_cons, ih]
  | blank =>
    have hstop : ¬ p '\n' = true := Bool.eq_false_iff.mp hp
    rw [List.takeWhile_cons_of_neg hstop, List.takeWhile_cons_of_neg hstop]

theorem HasBlanks.nameBefore_eq (h : HasBlanks s t) : nameBefore s = nameBefore t := by
  have hbreak : (isNameChar '\n' || '\n' == '-') = false := by decide +kernel
  rw [nameBefore, nameBefore, h.dropWhile_isBlank.takeWhile_eq hbreak]

/-- Blanks are passed over on the way back. -/
theorem openCall?_blank_append (hb : IsBlankText b) (depth commas : Nat) (before : List Char) :
    openCall? depth commas (b ++ before) = openCall? depth commas before := by
  induction b with
  | nil => rfl
  | cons c b ih =>
    obtain ⟨hc, hb⟩ := isBlankText_cons.mp hb
    rw [List.cons_append, openCall?_cons_of_ne (ne_of_isBlank hc (by decide))
      (ne_of_isBlank hc (by decide)) (ne_of_isBlank hc (by decide)), ih hb]

/-- The same call is found: as many commas behind its parenthesis, and the same name before it. -/
theorem HasBlanks.openCall?_eq (h : HasBlanks s t) (depth commas : Nat) :
    (openCall? depth commas s).map (fun call => (call.1, nameBefore call.2)) =
      (openCall? depth commas t).map fun call => (call.1, nameBefore call.2) := by
  induction h generalizing depth commas with
  | nil => rfl
  | cons c h ih =>
    by_cases hclose : c = ')'
    · subst hclose
      rw [openCall?_close, openCall?_close, ih]
    by_cases hopen : c = '('
    · subst hopen
      cases depth with
      | zero =>
        rw [openCall?_open_zero, openCall?_open_zero, Option.map_some, Option.map_some,
          h.nameBefore_eq]
      | succ depth => rw [openCall?_open_succ, openCall?_open_succ, ih]
    by_cases hcomma : c = ','
    · subst hcomma
      cases depth with
      | zero => rw [openCall?_comma_zero, openCall?_comma_zero, ih]
      | succ depth => rw [openCall?_comma_succ, openCall?_comma_succ, ih]
    · rw [openCall?_cons_of_ne hclose hopen hcomma, openCall?_cons_of_ne hclose hopen hcomma, ih]
  | blank hb _ ih =>
    rw [openCall?_cons_of_ne (by decide) (by decide) (by decide),
      openCall?_cons_of_ne (by decide) (by decide) (by decide), openCall?_blank_append hb, ih]

theorem joinLines_append_singleton_append (ls : List (List Char)) (last b : List Char) :
    joinLines (ls ++ [last ++ b]) = joinLines (ls ++ [last]) ++ b := by
  rcases eq_or_ne ls [] with rfl | hne
  · rfl
  · rw [joinLines_append_singleton hne, joinLines_append_singleton hne, List.append_assoc]
    rfl

/-- Blanks at the ends of lines are blanks before line breaks. -/
theorem hasBlanks_joinLines {f g : List Char → List Char}
    (h : ∀ l, ∃ b, IsBlankText b ∧ g l = f l ++ b) (ls : List (List Char)) (last : List Char) :
    HasBlanks (joinLines (ls.map f ++ [last])).reverse
      (joinLines (ls.map g ++ [last])).reverse := by
  induction ls using List.reverseRecOn generalizing last with
  | nil => exact .refl _
  | append_singleton ls line ih =>
    obtain ⟨b, hb, hline⟩ := h line
    have hblank : IsBlankText b.reverse := fun c hc => hb c (List.mem_reverse.mp hc)
    have hlast : ∀ (f : List Char → List Char) (l : List Char),
        (joinLines (ls.map f ++ [l] ++ [last])).reverse =
          last.reverse ++ '\n' :: (joinLines (ls.map f ++ [l])).reverse := by
      intro f l
      rw [joinLines_append_singleton (by simp), List.reverse_append, List.reverse_cons,
        List.append_assoc, List.singleton_append]
    rw [List.map_append, List.map_append, List.map_singleton, List.map_singleton, hlast, hlast,
      hline, joinLines_append_singleton_append, List.reverse_append]
    exact (HasBlanks.blank hblank (ih (f line))).append_left last.reverse

/-- What masking leaves of a `\r` at the end of a line is a blank. -/
theorem hasBlanks_maskLines (text : List Char) :
    HasBlanks (maskLines text).reverse (maskLines (withReturns text)).reverse := by
  have hmask : ∀ l, ∃ b, IsBlankText b ∧ Literal.mask (l ++ ['\r']) = Literal.mask l ++ b :=
    fun l => Literal.exists_maskFrom_eq_append .outside l (by decide)
  obtain ⟨ls, last, hpieces⟩ := exists_pieces_eq text
  rw [maskLines, maskLines, hpieces, pieces_withReturns hpieces, List.map_append, List.map_append,
    List.map_map]
  exact hasBlanks_joinLines hmask ls (Literal.mask last)

end Call

/-- The signature is the same. -/
theorem Catalog.signature?_withReturns (c : Catalog) (before : List Char) :
    c.signature? (withReturns before) = c.signature? before := by
  have hcall := (Call.hasBlanks_maskLines before).openCall?_eq 0 0
  have hbind : ∀ before, c.signature? before =
      ((Call.openCall? 0 0 (Call.maskLines before).reverse).map fun call =>
        (call.1, Call.nameBefore call.2)).bind fun call =>
          (c.entryNamed? call.2).map (Call.Signature.ofEntry · call.1) := by
    intro before
    rw [signature?_eq_bind_openCall?, Option.bind_map]
    rfl
  rw [hbind, hbind, hcall]

/-! ### The lines of a document -/

/-- The diagnostics are the same, at the same places. -/
theorem Diagnostic.scan_withReturns (c : Catalog) (settings : Settings) {text : List Char}
    (h : '\r' ∉ text) : scan c settings (withReturns text) = scan c settings text := by
  rw [scan, lines_withReturns h, scan]

/-- The layout is the same, with line breaks that have no `\r`. -/
theorem Layout.alignPipes_withReturns {text : List Char} (h : '\r' ∉ text) :
    alignPipes (withReturns text) = alignPipes text := by
  rw [alignPipes, lines_withReturns h, endsInLineBreak_withReturns, alignPipes]

/-! ### The assistant -/

namespace Assistant

/-- An assistant answers all requests about one text at a position as it answers them about another
text at the same position. -/
structure SameAnswers {σ : Type} (a : Assistant σ) (text text' : List Char) (p : Position)
    (cancelled : Bool) : Prop where
  /-- The position is on the same line. -/
  line : (Cursor.locate text p).line = (Cursor.locate text' p).line
  /-- The same part of the line is before it. -/
  lineStart : (Cursor.locate text p).lineStart = (Cursor.locate text' p).lineStart
  /-- It is in the same column. -/
  column : (Cursor.locate text p).column = (Cursor.locate text' p).column
  /-- The same kind of name is expected. -/
  contextAt : contextAt (.ofList text) p = Assistant.contextAt (.ofList text') p
  /-- The same items are offered. -/
  completions : a.completions (.ofList text) p cancelled =
    a.completions (.ofList text') p cancelled
  /-- The same card is shown, and the same is remembered. -/
  hoverAt : a.hoverAt (.ofList text) p cancelled = a.hoverAt (.ofList text') p cancelled
  /-- The call around the position has the same signature. -/
  signatureAt : a.signatureAt (.ofList text) p cancelled =
    a.signatureAt (.ofList text') p cancelled
  /-- The diagnostics are the same, at the same places. -/
  diagnostics : a.diagnostics (.ofList text) cancelled = a.diagnostics (.ofList text') cancelled
  /-- The layout is the same. -/
  alignPipes : alignPipes (.ofList text) = Assistant.alignPipes (.ofList text')
  /-- The same table is in force at the end of the text. -/
  tableScope? : a.store.catalog.tableScope? text = a.store.catalog.tableScope? text'
  /-- The call around the end of the text has the same signature. -/
  signature? : a.store.catalog.signature? text = a.store.catalog.signature? text'

/-- All that is answered about a text without any `\r` is answered again when there is one before
every line break, whatever draws the samples. The text before the cursor is the same up to those. -/
theorem sameAnswers_withReturns {σ : Type} (a : Assistant σ) {text : List Char} (h : '\r' ∉ text)
    (p : Position) (cancelled : Bool) :
    SameAnswers a (withReturns text) text p cancelled ∧
      (Cursor.locate (withReturns text) p).before =
        withReturns (Cursor.locate text p).before := by
  have hcursor := Cursor.locate_withReturns h p
  have hoffer : a.completions (.ofList (withReturns text)) p cancelled =
      a.completions (.ofList text) p cancelled := by
    simp only [completions, queryAt, String.toList_ofList, hcursor,
      Catalog.tableScope?_withReturns]
  have hcard : a.hoverAt (.ofList (withReturns text)) p cancelled =
      a.hoverAt (.ofList text) p cancelled := by
    simp only [hoverAt, String.toList_ofList, hcursor]
  have hcall : a.signatureAt (.ofList (withReturns text)) p cancelled =
      a.signatureAt (.ofList text) p cancelled := by
    simp only [signatureAt, String.toList_ofList, hcursor, Catalog.signature?_withReturns]
  have hscan : a.diagnostics (.ofList (withReturns text)) cancelled =
      a.diagnostics (.ofList text) cancelled := by
    simp only [diagnostics, Diagnostic.scanUnless, String.toList_ofList,
      Diagnostic.scan_withReturns _ _ h]
  have hlayout : alignPipes (.ofList (withReturns text)) = alignPipes (.ofList text) := by
    simp only [alignPipes, String.toList_ofList, Layout.alignPipes_withReturns h]
  have hcontext : contextAt (.ofList (withReturns text)) p = contextAt (.ofList text) p := by
    simp only [contextAt, String.toList_ofList, hcursor]
  refine ⟨⟨by rw [hcursor], by rw [hcursor], by rw [hcursor], hcontext, hoffer, hcard, hcall, hscan,
    hlayout, ?_, ?_⟩, by rw [hcursor]⟩
  · exact Catalog.tableScope?_withReturns a.store.catalog text
  · exact Catalog.signature?_withReturns a.store.catalog text

/-- A call over two lines, with a literal that is still open at the end of the first. -/
def callOverLines : List Char := "Logs\n| where strcat (a, '(\n, b // c\n".toList

/-- The position is in the call, on its second line. -/
theorem sameAnswers_withReturns_callOverLines :
    '\r' ∉ callOverLines ∧
      SameAnswers (start (.ofCatalog Catalog.concatenation) {} 0) (withReturns callOverLines)
        callOverLines ⟨2, 3⟩ false ∧
      (Cursor.locate (withReturns callOverLines) ⟨2, 3⟩).before =
        withReturns (Cursor.locate callOverLines ⟨2, 3⟩).before := by
  have hreturn : '\r' ∉ callOverLines := by decide
  exact ⟨hreturn, sameAnswers_withReturns _ hreturn ⟨2, 3⟩ false⟩

end Assistant

end QueryAssist
