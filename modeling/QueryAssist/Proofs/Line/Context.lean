import QueryAssist.Line.Context
import QueryAssist.Proofs.Diagnostic.Names
import QueryAssist.Proofs.Pattern.LineEnd
import QueryAssist.Proofs.Text.Blank
import QueryAssist.Proofs.Text.Word

/-!
# Classification from the end of a line

What is expected at the cursor can be read off the line backwards: the longest run of characters of
a class is passed, then blanks, and what stands before them decides. The patterns say the same,
because behind what they ask for no shorter run could begin.

Two things show only when the patterns are taken together. The list operators are asked for in
vain, as every list ends in a comma or a blank. And an argument behind a blank is never found, as
it passes for a member of a list.

## Main definitions

* `Context.ofLineEnd` — the kind of position, by what stands at the end of the line

## Main results

* `isFoundIn_startOfStatementPattern`, `isFoundIn_orderByPattern`, `isFoundIn_afterPipePattern`,
  `isFoundIn_resourceTypePattern`, `isFoundIn_propertyListPattern`,
  `isFoundIn_functionArgumentPattern` — what each pattern says of the end of the line
* `ofLineStart_eq_ofLineEnd` — the patterns classify a line like its end
-/

namespace QueryAssist

open Text Pattern

namespace Context

variable {p s before after w l : List Char} {c : Char} {as : List Pattern}

/-! ### The end of a line -/

/-- Whether the longest run of word characters at the end of a text is a given word, case aside. -/
def endsInWord (w : String) (s : List Char) : Bool :=
  (s.rtakeWhile isWord).map foldLetter == w.toList

/-- Whether a text is an identifier. -/
def isIdentifier (s : List Char) : Bool := s.head?.any isIdentifierStart && s.tail.all isWord

/-- Whether a line is blank, a comment, or one identifier. -/
def isStatementStart (p : List Char) : Bool :=
  (trimStart p).isEmpty || "//".toList.isPrefixOf (trimStart p) || isIdentifier p

/-- Whether a line ends in the word `sort` or `order`, at least one blank, and the beginning of a
word. -/
def expectsBy (p : List Char) : Bool :=
  let front := p.rdropWhile isWord
  front.getLast?.any isBlank &&
    (endsInWord "sort" (trimEnd front) || endsInWord "order" (trimEnd front))

/-- Whether a line ends in a pipe, blanks, and the beginning of an operator. -/
def followsPipe (p : List Char) : Bool := (trimEnd (p.rdropWhile isHyphenated)).getLast? == some '|'

/-- A single or double quote. -/
def isQuote (c : Char) : Bool := c == '\'' || c == '"'

/-- A text without one quote at its end. -/
def dropQuote (s : List Char) : List Char := if s.getLast?.any isQuote then s.dropLast else s

/-- Whether a text ends in the word `type` and `==` or `=~`, with blanks around the operator. -/
def endsInTypeTest (s : List Char) : Bool :=
  let front := trimEnd s
  ("==".toList.isSuffixOf front || "=~".toList.isSuffixOf front) &&
    endsInWord "type" (trimEnd front.dropLast.dropLast)

/-- Whether a line ends in a test of the type, at most one quote, and the beginning of a resource
type. -/
def isInResourceType (p : List Char) : Bool :=
  endsInTypeTest (dropQuote (p.rdropWhile isResourcePath))

/-- What a member of a list can stand behind: a comma or a blank. -/
def isSeparator (c : Char) : Bool := c == ',' || isBlank c

/-- Whether a line ends in a comma or a blank and the beginning of a member. -/
def isInList (p : List Char) : Bool := (p.rdropWhile isDotted).getLast?.any isSeparator

/-- Whether a line ends in an equals sign, or in a parenthesis behind a word, and the beginning of
an argument. -/
def isInArgument (p : List Char) : Bool :=
  let front := p.rdropWhile isDotted
  front.getLast? == some '=' ||
    (front.getLast? == some '(' && (trimEnd front.dropLast).getLast?.any isWord)

/-- The kind of position at the end of the beginning of a line, by what stands there. -/
def ofLineEnd (p : List Char) : Context :=
  if isStatementStart p then startOfStatement
  else if expectsBy p then orderBy
  else if followsPipe p then afterPipe
  else if isInResourceType p then resourceTypeLiteral
  else if isInList p then propertyList
  else if isInArgument p then functionArgument
  else other

/-! ### Classes of characters -/

theorem isBlank_of_isWord (h : isWord c = true) : isBlank c = false := by
  rw [← Bool.not_eq_true]
  intro hblank
  rw [isWord_of_isBlank hblank] at h
  cases h

theorem isWord_of_isLower_foldLetter (h : (foldLetter c).isLower = true) : isWord c = true := by
  -- two letters beyond ASCII fold to one of it
  by_cases hs : c = 'ſ'
  · subst hs
    decide +kernel
  by_cases hk : c = '\u212A'
  · subst hk
    decide +kernel
  rw [foldLetter, if_neg hs, if_neg hk] at h
  apply isWord_of_isAlpha
  unfold Char.toLower at h
  unfold Char.isAlpha Char.isUpper
  split at h
  · rename_i hupper
    rw [decide_eq_true hupper, Bool.true_or]
  · rw [h, Bool.or_true]

theorem isResourcePath_of_isBlank (h : isBlank c = true) : isResourcePath c = false := by
  have hdot : c ≠ '.' := ne_of_isBlank h (by decide)
  have hslash : c ≠ '/' := ne_of_isBlank h isBlank_slash
  have hhyphen : c ≠ '-' := ne_of_isBlank h (by decide)
  simp [isResourcePath, isWord_of_isBlank h, hdot, hslash, hhyphen]

theorem isQuote_of_isBlank (h : isBlank c = true) : isQuote c = false := by
  have hsingle : c ≠ '\'' := ne_of_isBlank h (by decide)
  have hdouble : c ≠ '"' := ne_of_isBlank h (by decide)
  simp [isQuote, hsingle, hdouble]

theorem isSeparator_of_isBlank (h : isBlank c = true) : isSeparator c = true := by
  rw [isSeparator, h, Bool.or_true]

theorem isDotted_of_isSeparator (h : isSeparator c = true) : isDotted c = false := by
  rw [isSeparator, Bool.or_eq_true, beq_iff_eq] at h
  rcases h with rfl | h
  · decide +kernel
  · have hdot : c ≠ '.' := ne_of_isBlank h (by decide)
    simp [isDotted, isWord_of_isBlank h, hdot]

/-! ### Words -/

/-- A word at the end of a text, and what stands before it. -/
theorem endsInWord_iff {word : String} (hword : word.toList.all Char.isLower = true) :
    endsInWord word s = true ↔ ∃ before w, s = before ++ w ∧ w.map foldLetter = word.toList ∧
      ∀ c ∈ before.getLast?, isWord c = false := by
  rw [endsInWord, beq_iff_eq]
  constructor
  · intro h
    exact ⟨s.rdropWhile isWord, s.rtakeWhile isWord, List.rdropWhile_append_rtakeWhile.symm, h,
      fun c hc => of_mem_getLast?_rdropWhile hc⟩
  · rintro ⟨before, w, rfl, hw, hbefore⟩
    have hall : ∀ c ∈ w, isWord c = true := by
      intro c hc
      apply isWord_of_isLower_foldLetter
      exact List.all_eq_true.mp hword _ (hw ▸ List.mem_map_of_mem hc)
    rw [rtakeWhile_append hall hbefore, hw]

/-- A whole word can be read at the end of a text that ends in it. -/
theorem readBackwards_word_iff {word : String} (hword : word.toList.all Char.isLower = true)
    (hne : word.toList ≠ []) :
    ReadBackwards [.word word, .wordBoundary] s after ↔ endsInWord word s = true := by
  have hboundary : ∀ {w before : List Char}, w.map foldLetter = word.toList →
      (((before.getLast?.map isWord).getD false ≠ ((w ++ after).head?.map isWord).getD false) ↔
        ∀ c ∈ before.getLast?, isWord c = false) := by
    intro w before hw
    -- the word begins with a word character, so none may stand before it
    cases w with
    | nil => exact (hne hw.symm).elim
    | cons d w =>
      have hd : isWord d = true := by
        apply isWord_of_isLower_foldLetter
        exact List.all_eq_true.mp hword _ (hw ▸ List.mem_cons_self)
      cases before.getLast? with
      | none => simp [hd]
      | some c => simp [hd]
  rw [endsInWord_iff hword]
  constructor
  · rintro ⟨-, w, rfl, hw, before, -, rfl, ⟨rfl, hbefore⟩, -⟩
    have hw := reads_word.mp hw
    rw [List.append_nil]
    exact ⟨before, w, rfl, hw, (hboundary hw).mp hbefore⟩
  · rintro ⟨before, w, rfl, hw, hbefore⟩
    exact ⟨before, w, rfl, reads_word.mpr hw, before, [], (List.append_nil before).symm,
      ⟨rfl, (hboundary hw).mpr hbefore⟩, trivial⟩

/-- What ends in a word ends in a word character. -/
theorem endIn_word {word : String} (hword : word.toList.all Char.isLower = true)
    (hne : word.toList ≠ []) : EndIn (.word word :: as) fun c => isWord c = true := by
  apply endIn_cons
  intro before w after h
  have hw := reads_word.mp h
  have hwne : w ≠ [] := by
    rintro rfl
    exact hne hw.symm
  refine ⟨w.getLast hwne, List.getLast?_eq_some_getLast hwne, ?_⟩
  apply isWord_of_isLower_foldLetter
  exact List.all_eq_true.mp hword _ (hw ▸ List.mem_map_of_mem (List.getLast_mem hwne))

/-! ### Statements -/

theorem reads_identifier : identifier.Reads before l after ↔ isIdentifier l = true := by
  rw [isIdentifier, Bool.and_eq_true, List.all_eq_true]
  constructor
  · rintro ⟨-, rest, rfl, ⟨c, hc, rfl⟩, hrest⟩
    exact ⟨hc, hrest⟩
  · rintro ⟨hhead, htail⟩
    cases l with
    | nil => cases hhead
    | cons c rest => exact ⟨[c], rest, rfl, ⟨c, hhead, rfl⟩, htail⟩

/-- What a comment reads is made of blanks, two slashes, and a text in one line. -/
theorem reads_comment :
    (sequence [blanks, .char '/', .char '/', .run (· != '\n')]).Reads before l after ↔
      ∃ b rest, l = b ++ '/' :: '/' :: rest ∧ IsBlankText b ∧ '\n' ∉ rest := by
  constructor
  · rintro ⟨b, -, rfl, hb, slash, -, rfl, hslash, slash', rest, rfl, hslash', hrest⟩
    obtain rfl := reads_char.mp hslash
    obtain rfl := reads_char.mp hslash'
    exact ⟨b, rest, rfl, hb, fun hmem => bne_iff_ne.mp (hrest _ hmem) rfl⟩
  · rintro ⟨b, rest, rfl, hb, hbreak⟩
    have hrest : ∀ c ∈ rest, (c != '\n') = true :=
      fun c hc => bne_iff_ne.mpr (ne_of_mem_of_not_mem hc hbreak)
    exact ⟨b, _, rfl, hb, ['/'], '/' :: rest, rfl, reads_char.mpr rfl, ['/'], rest, rfl,
      reads_char.mpr rfl, hrest⟩

theorem isFoundIn_startOfStatementPattern (hbreak : '\n' ∉ p) :
    startOfStatementPattern.isFoundIn p = isStatementStart p := by
  have hfound : startOfStatementPattern.isFoundIn p = true ↔ ReadBackwards
      [.choice blanks [.sequence [blanks, .char '/', .char '/', .run (· != '\n')], identifier],
        .lineStart] p [] :=
    isFoundIn_lineEnd_iff [.choice _ [_, _], .lineStart] p
  have hblank : blanks.Reads [] p [] ↔ (trimStart p).isEmpty = true := by
    rw [List.isEmpty_iff, trimStart_eq_nil_iff]
    exact Iff.rfl
  have hcomment : (sequence [blanks, .char '/', .char '/', .run (· != '\n')]).Reads [] p [] ↔
      "//".toList.isPrefixOf (trimStart p) = true := by
    rw [reads_comment, List.isPrefixOf_iff_prefix]
    constructor
    · rintro ⟨b, rest, rfl, hb, -⟩
      rw [trimStart_append_of_blank hb]
      exact ⟨rest, rfl⟩
    · rintro ⟨rest, hrest⟩
      have hsplit := leadingBlanks_append_trimStart p
      rw [← hrest] at hsplit
      -- nothing in the line is a line break, so the comment goes on to its end
      refine ⟨leadingBlanks p, rest, hsplit.symm, isBlankText_leadingBlanks p, ?_⟩
      intro hmem
      apply hbreak
      rw [← hsplit]
      simp [hmem]
  rw [Bool.eq_iff_iff, hfound, readBackwards_lineStart_iff, isStatementStart, Bool.or_eq_true,
    Bool.or_eq_true, or_assoc]
  exact or_congr hblank (or_congr hcomment reads_identifier)

/-! ### Operators -/

theorem isFoundIn_orderByPattern (p : List Char) : orderByPattern.isFoundIn p = expectsBy p := by
  have hfound : orderByPattern.isFoundIn p = true ↔ ReadBackwards [.run isWord, blanks1,
      .choice (.word "sort") [.word "order"], .wordBoundary] p [] :=
    isFoundIn_lineEnd_iff [.run isWord, blanks1, .choice _ [_], .wordBoundary] p
  have hwords : EndIn [.choice (.word "sort") [.word "order"], .wordBoundary]
      fun c => isWord c = true :=
    EndIn.alt (endIn_word (by decide) (by decide)) (endIn_word (by decide) (by decide))
  have hblanks : EndIn [blanks1, .choice (.word "sort") [.word "order"], .wordBoundary]
      fun c => isBlank c = true := endIn_run1
  rw [Bool.eq_iff_iff, hfound, readBackwards_run_iff hblanks fun _ => isWord_of_isBlank, blanks1,
    readBackwards_run1_iff hwords fun _ => isBlank_of_isWord]
  simp only [choice, readBackwards_alt_iff]
  rw [readBackwards_word_iff (by decide) (by decide),
    readBackwards_word_iff (by decide) (by decide)]
  simp [expectsBy, trimEnd_eq_rdropWhile]

theorem isFoundIn_afterPipePattern (p : List Char) :
    afterPipePattern.isFoundIn p = followsPipe p := by
  have hfound : afterPipePattern.isFoundIn p = true ↔
      ReadBackwards [.run isHyphenated, blanks, .char '|'] p [] :=
    isFoundIn_lineEnd_iff [.run isHyphenated, blanks, .char '|'] p
  have hbar : EndIn [.char '|'] (· = '|') := endIn_char
  have hblanks : EndIn [blanks, .char '|'] fun c => isBlank c = true ∨ c = '|' :=
    (hbar.mono fun _ => Or.inr).run fun _ => Or.inl
  have hhyphenated : ∀ c, isBlank c = true ∨ c = '|' → isHyphenated c = false := by
    rintro c (hc | rfl)
    · exact Diagnostic.isHyphenated_of_isBlank hc
    · exact Diagnostic.isHyphenated_bar
  have hblank : ∀ c, c = '|' → isBlank c = false := by
    rintro c rfl
    exact isBlank_bar
  rw [Bool.eq_iff_iff, hfound, readBackwards_run_iff hblanks hhyphenated, blanks,
    readBackwards_run_iff hbar hblank, readBackwards_char_iff]
  simp [followsPipe, trimEnd_eq_rdropWhile, ReadBackwards]

/-! ### Resource types -/

/-- The operators a resource type can stand behind. -/
def equality : Pattern := .choice (.seq (.char '=') (.char '=')) [.seq (.char '=') (.char '~')]

/-- Both operators end in one of two characters. -/
theorem endIn_equality : EndIn (equality :: as) fun c => c = '=' ∨ c = '~' :=
  (EndIn.seq (endIn_char.mono fun _ => Or.inl)).alt (EndIn.seq (endIn_char.mono fun _ => Or.inr))

theorem pair_isSuffix_iff {c' : Char} :
    [c', c] <:+ s ↔ s.getLast? = some c ∧ s.dropLast.getLast? = some c' := by
  constructor
  · rintro ⟨front, rfl⟩
    rw [List.append_cons, List.getLast?_concat, List.dropLast_concat, List.getLast?_concat]
    exact ⟨rfl, rfl⟩
  · rintro ⟨hlast, hlast'⟩
    obtain ⟨front, rfl⟩ := List.getLast?_eq_some_iff.mp hlast
    rw [List.dropLast_concat] at hlast'
    obtain ⟨front, rfl⟩ := List.getLast?_eq_some_iff.mp hlast'
    exact ⟨front, by simp⟩

/-- An operator is read as the last two characters, if what stands before it does not depend on what
comes behind. -/
theorem readBackwards_equality_iff {P : List Char → Prop}
    (h : ∀ s after, ReadBackwards as s after ↔ P s) :
    ReadBackwards (equality :: as) s after ↔
      ("==".toList <:+ s ∨ "=~".toList <:+ s) ∧ P s.dropLast.dropLast := by
  have hequals : "==".toList = ['=', '='] := by decide
  have htilde : "=~".toList = ['=', '~'] := by decide
  rw [equality, choice, choice, readBackwards_alt_iff]
  simp only [readBackwards_seq_iff, readBackwards_char_iff, h, hequals, htilde, pair_isSuffix_iff]
  rw [or_and_right, and_assoc, and_assoc]

theorem readBackwards_typeTest_iff :
    ReadBackwards [blanks, equality, blanks, .word "type", .wordBoundary] s after ↔
      endsInTypeTest s = true := by
  have hword : EndIn [.word "type", .wordBoundary] fun c => isWord c = true :=
    endIn_word (by decide) (by decide)
  have htype : ∀ s after, ReadBackwards [blanks, .word "type", .wordBoundary] s after ↔
      endsInWord "type" (trimEnd s) = true := by
    intro s after
    rw [blanks, readBackwards_run_iff hword fun _ => isBlank_of_isWord,
      readBackwards_word_iff (by decide) (by decide), trimEnd_eq_rdropWhile]
  have hblank : ∀ c, c = '=' ∨ c = '~' → isBlank c = false := by
    rintro c (rfl | rfl) <;> decide
  rw [blanks, readBackwards_run_iff endIn_equality hblank, ← blanks,
    readBackwards_equality_iff htype, ← trimEnd_eq_rdropWhile, endsInTypeTest, Bool.and_eq_true,
    Bool.or_eq_true, List.isSuffixOf_iff_suffix, List.isSuffixOf_iff_suffix]

/-- What stands in front of a resource type, the last piece first. -/
def beforeResourceType : List Pattern :=
  [.optional (.one isQuote), blanks, equality, blanks, .word "type", .wordBoundary]

theorem endIn_typeTest : EndIn [blanks, equality, blanks, .word "type", .wordBoundary]
    fun c => isBlank c = true ∨ c = '=' ∨ c = '~' :=
  (endIn_equality.mono fun _ => Or.inr).run fun _ => Or.inl

/-- What stands in front of a resource type ends in a character that is no part of one. -/
theorem endIn_beforeResourceType : EndIn beforeResourceType fun c => isResourcePath c = false := by
  have hquote : EndIn beforeResourceType
      fun c => isQuote c = true ∨ isBlank c = true ∨ c = '=' ∨ c = '~' :=
    (endIn_typeTest.mono fun _ => Or.inr).optional_one fun _ => Or.inl
  refine hquote.mono fun c hc => ?_
  rw [isQuote, Bool.or_eq_true, beq_iff_eq, beq_iff_eq] at hc
  rcases hc with (rfl | rfl) | hblank | rfl | rfl
  case inr.inl => exact isResourcePath_of_isBlank hblank
  all_goals decide +kernel

theorem isFoundIn_resourceTypePattern (p : List Char) :
    resourceTypePattern.isFoundIn p = isInResourceType p := by
  have hfound : resourceTypePattern.isFoundIn p = true ↔
      ReadBackwards (.run isResourcePath :: beforeResourceType) p [] :=
    -- a group reads what its pattern reads
    isFoundIn_lineEnd_iff (.group 1 (.run isResourcePath) :: beforeResourceType) p
  have hnoquote : ∀ c, isBlank c = true ∨ c = '=' ∨ c = '~' → isQuote c = false := by
    rintro c (hblank | rfl | rfl)
    · exact isQuote_of_isBlank hblank
    · rfl
    · rfl
  rw [Bool.eq_iff_iff, hfound, readBackwards_run_iff endIn_beforeResourceType fun _ => id,
    beforeResourceType, readBackwards_optional_one_iff endIn_typeTest hnoquote]
  simp only [readBackwards_typeTest_iff, isInResourceType, dropQuote]
  split <;> rfl

/-! ### Lists -/

/-- What can stand behind a comma or a blank only is the beginning of a member of a list. -/
theorem isInList_of_readBackwards (has : EndIn as fun c => isSeparator c = true)
    (h : ReadBackwards (.run isDotted :: as) p after) : isInList p = true := by
  rw [readBackwards_run_iff has fun _ => isDotted_of_isSeparator] at h
  obtain ⟨c, hlast, hc⟩ := has _ _ h
  rw [isInList, Option.mem_def.mp hlast]
  exact hc

theorem readBackwards_separator_iff :
    ReadBackwards [.run isDotted, blanks, .one isSeparator] p after ↔ isInList p = true := by
  have hend : EndIn [blanks, .one isSeparator] fun c => isSeparator c = true :=
    endIn_one.run fun _ => isSeparator_of_isBlank
  constructor
  · exact isInList_of_readBackwards hend
  · intro h
    rw [isInList, Option.any_eq_true] at h
    obtain ⟨c, hlast, hc⟩ := h
    rw [readBackwards_run_iff hend fun _ => isDotted_of_isSeparator]
    -- no blank is left to the run, as the separator may be one itself
    exact ⟨p.rdropWhile isDotted, [], (List.append_nil _).symm, List.forall_mem_nil _,
      readBackwards_one_iff.mpr ⟨c, hlast, hc, trivial⟩⟩

/-- The members behind a list operator end in a comma or a blank, so it need not be looked for. -/
theorem isFoundIn_propertyListPattern (p : List Char) :
    propertyListPattern.isFoundIn p = isInList p := by
  have hseparator : (sequence [.one isSeparator, blanks, .run isDotted, .lineEnd]).isFoundIn p =
      true ↔ isInList p = true :=
    (isFoundIn_lineEnd_iff [.run isDotted, blanks, .one isSeparator] p).trans
      readBackwards_separator_iff
  have hcomma : EndIn [blanks, .char ',', blanks, run1 isDotted] fun c => isSeparator c = true := by
    apply EndIn.run _ fun _ => isSeparator_of_isBlank
    apply endIn_char.mono
    rintro c rfl
    rfl
  have hmembers : EndIn [.star (.sequence [.run1 isDotted, blanks, .char ',', blanks]), blanks1,
      listOperators, .wordBoundary] fun c => isSeparator c = true :=
    (endIn_run1.mono fun _ => isSeparator_of_isBlank).star hcomma
  have hoperators : (sequence [.wordBoundary, listOperators, blanks1,
      .star (.sequence [.run1 isDotted, blanks, .char ',', blanks]), .run isDotted,
      .lineEnd]).isFoundIn p = true → isInList p = true := by
    intro h
    apply isInList_of_readBackwards hmembers
    exact (isFoundIn_lineEnd_iff (.run isDotted :: _) p).mp h
  rw [Bool.eq_iff_iff, propertyListPattern, choice, choice, isFoundIn_alt_iff]
  exact (or_congr_right hseparator).trans (or_iff_right_of_imp hoperators)

/-! ### Arguments -/

/-- Outside of lists no blank stands in front of the beginning of an argument, so what is asked for
there is the last character. -/
theorem readBackwards_argument_iff (hdotted : isDotted c = false) (h : isInList p = false) :
    ReadBackwards (.run isDotted :: blanks :: .char c :: as) p after ↔
      (p.rdropWhile isDotted).getLast? = some c ∧ ReadBackwards as (p.rdropWhile isDotted).dropLast
        (c :: (p.rtakeWhile isDotted ++ after)) := by
  have hend : EndIn (blanks :: .char c :: as) fun c => isDotted c = false := by
    apply EndIn.run
    · apply endIn_char.mono
      rintro c' rfl
      exact hdotted
    · exact fun _ hblank => isDotted_of_isSeparator (isSeparator_of_isBlank hblank)
  have hlast : ∀ c' ∈ (p.rdropWhile isDotted).getLast?, isBlank c' = false := by
    intro c' hc'
    rw [isInList, Option.mem_def.mp hc', Option.any_some, isSeparator, Bool.or_eq_false_iff] at h
    exact h.2
  rw [readBackwards_run_iff hend fun _ => id, blanks, readBackwards_run_of_getLast? hlast,
    readBackwards_char_iff]

theorem isFoundIn_functionArgumentPattern (h : isInList p = false) :
    functionArgumentPattern.isFoundIn p = isInArgument p := by
  have hcall : (Pattern.seq (sequence [.one isWord, blanks, .char '(', blanks, .run isDotted])
      .lineEnd).isFoundIn p = true ↔
      ReadBackwards [.run isDotted, blanks, .char '(', blanks, .one isWord] p [] :=
    isFoundIn_seq_lineEnd_iff [_, _, _, _, _] p
  have hassignment : (Pattern.seq (sequence [.char '=', blanks, .run isDotted])
      .lineEnd).isFoundIn p = true ↔ ReadBackwards [.run isDotted, blanks, .char '='] p [] :=
    isFoundIn_seq_lineEnd_iff [_, _, _] p
  have hword : ∀ s after, ReadBackwards [blanks, .one isWord] s after ↔
      (trimEnd s).getLast?.any isWord = true := by
    intro s after
    rw [blanks, readBackwards_run_iff endIn_one fun _ => isBlank_of_isWord, readBackwards_one_iff,
      ← trimEnd_eq_rdropWhile, Option.any_eq_true]
    simp [ReadBackwards]
  rw [Bool.eq_iff_iff, functionArgumentPattern, choice, choice, isFoundIn_seq_alt_iff, hcall,
    hassignment, readBackwards_argument_iff (by decide +kernel) h,
    readBackwards_argument_iff (by decide +kernel) h, hword]
  simp [isInArgument, ReadBackwards, or_comm]

/-! ### The classification -/

theorem getD_map_find?_cons {α β : Type*} (f : α × β → Bool) (k : α × β) (ks : List (α × β))
    (a : α) :
    (((k :: ks).find? f).map (·.1)).getD a =
      if f k then k.1 else ((ks.find? f).map (·.1)).getD a := by
  cases h : f k <;> simp [h]

/-- The patterns classify a line like its end: of the longest run of each class and the blanks
before it, only what stands in front of them counts. -/
theorem ofLineStart_eq_ofLineEnd (hbreak : '\n' ∉ p) : ofLineStart p = ofLineEnd p := by
  simp only [ofLineStart, patterns, getD_map_find?_cons, List.find?_nil, Option.map_none,
    Option.getD_none, isFoundIn_startOfStatementPattern hbreak, isFoundIn_orderByPattern,
    isFoundIn_afterPipePattern, isFoundIn_resourceTypePattern, isFoundIn_propertyListPattern]
  -- the last pattern is asked only where the line does not end in a list
  cases hlist : isInList p with
  | true => simp only [ofLineEnd, hlist, if_true]
  | false => simp only [ofLineEnd, hlist, isFoundIn_functionArgumentPattern hlist]

theorem ofLineStart_eq_ofLineEnd_typeTest :
    '\n' ∉ "| where type =~ 'micro".toList ∧
      ofLineStart "| where type =~ 'micro".toList = ofLineEnd "| where type =~ 'micro".toList := by
  have hbreak : '\n' ∉ "| where type =~ 'micro".toList := by decide
  exact ⟨hbreak, ofLineStart_eq_ofLineEnd hbreak⟩

/-- Behind an equals sign an argument is expected, but a blank makes it a member of a list. -/
example : ofLineEnd "| extend x =".toList = functionArgument ∧
    ofLineEnd "| extend x = ".toList = propertyList := by decide +kernel

end Context

end QueryAssist
