import Mathlib.Data.List.Induction
import QueryAssist.Proofs.Line.Literal

/-!
# The parts of a line

A line is made of code, closed literals, and at its end possibly a literal that is not closed or a
comment. This can be said without following a scan from character to character: by what may stand
between two quotes, and by what may follow what. Every line is made up in this way, in one way only,
and masking shows the code and the quotes of it. Up to the first comment, the scan that masks the
line and the search for an open literal know the same of its literals.

## Main definitions

* `Literal.IsContent` — what may stand between the quotes of a literal
* `Literal.MasksTo` — the parts of a line, what is shown of them, and what the line ends in
* `Literal.HasComment` — a comment begins in a line
* `Literal.endingOf` — what a line ends in, by where the scan stands behind it
* `Literal.State.openQuote` — what the scan knows of the open literal

## Main results

* `exists_masksTo` — every line is made of such parts
* `masksTo_iff` — masking shows what the parts of a line say, and no line can be read in two ways
* `State.openQuote_next` — both searches for literals take the same steps
* `foldl_next_openQuote` — so they stand in the same literal behind a piece without a comment
* `MasksTo.isOpenAfter_iff` — a literal is open at the end of a line that ends in one
* `hasComment_iff` — a line ends in a comment exactly if one begins in it
-/

namespace QueryAssist.Literal

variable {quote c : Char} {content tail line shown rest a b : List Char} {s s' : State}

/-! ### Parts -/

/-- One of the two quotes that literals are written in. -/
def IsQuote (c : Char) : Prop := c = '\'' ∨ c = '"'

instance : DecidablePred IsQuote := fun c => inferInstanceAs (Decidable (c = '\'' ∨ c = '"'))

/-- What may stand in a literal that `quote` closes: characters other than that quote and the
backslash, and backslashes each with the character behind it, whatever it is. -/
inductive IsContent (quote : Char) : List Char → Prop
  | nil : IsContent quote []
  | cons {c : Char} {content : List Char} (hquote : c ≠ quote) (hback : c ≠ '\\')
      (h : IsContent quote content) : IsContent quote (c :: content)
  | escape {c : Char} {content : List Char} (h : IsContent quote content) :
      IsContent quote ('\\' :: c :: content)

/-- What a line ends in. -/
inductive Ending where
  /-- In neither a literal nor a comment. -/
  | code
  /-- In a literal that is not closed. -/
  | literal
  /-- In a comment. -/
  | comment
deriving DecidableEq, Repr

/-- A line, what is shown of it when literals and comments are blanked out, and what it ends in. -/
inductive MasksTo : (line shown : List Char) → Ending → Prop
  | nil : MasksTo [] [] .code
  /-- Code is shown. No quote is code, and neither are two slashes. -/
  | code {c : Char} {line shown : List Char} {e : Ending} (hquote : ¬ IsQuote c)
      (hslash : c = '/' → line.head? ≠ some '/') (h : MasksTo line shown e) :
      MasksTo (c :: line) (c :: shown) e
  /-- Of a closed literal the quotes are shown. -/
  | closed {quote : Char} {content line shown : List Char} {e : Ending} (hquote : IsQuote quote)
      (hcontent : IsContent quote content) (h : MasksTo line shown e) :
      MasksTo (quote :: (content ++ quote :: line)) (quote :: (blanked content ++ quote :: shown)) e
  /-- A literal that is not closed may end with a backslash that protects nothing yet. -/
  | unclosed {quote : Char} {content tail : List Char} (hquote : IsQuote quote)
      (hcontent : IsContent quote content) (htail : tail = [] ∨ tail = ['\\']) :
      MasksTo (quote :: (content ++ tail)) (quote :: blanked (content ++ tail)) .literal
  /-- Two slashes outside of literals begin a comment. -/
  | comment (rest : List Char) :
      MasksTo ('/' :: '/' :: rest) (blanked ('/' :: '/' :: rest)) .comment

variable {e : Ending}

theorem IsContent.append (h : IsContent quote content) (h' : IsContent quote tail) :
    IsContent quote (content ++ tail) := by
  induction h with
  | nil => exact h'
  | cons hquote hback _ ih => exact .cons hquote hback ih
  | escape _ ih => exact .escape ih

/-- Behind an opening quote either the literal is closed somewhere or the rest of the line belongs
to it. -/
theorem exists_content (quote : Char) (text : List Char) :
    (∃ content rest, IsContent quote content ∧ text = content ++ quote :: rest) ∨
      ∃ content tail, IsContent quote content ∧ (tail = [] ∨ tail = ['\\']) ∧
        text = content ++ tail := by
  -- a backslash takes up the character behind it, so the induction has to go on behind both
  induction text using List.twoStepInduction with
  | nil => exact Or.inr ⟨[], [], .nil, Or.inl rfl, rfl⟩
  | singleton c =>
    by_cases hquote : c = quote
    · exact Or.inl ⟨[], [], .nil, by rw [hquote]; rfl⟩
    · by_cases hback : c = '\\'
      · exact Or.inr ⟨[], [c], .nil, Or.inr (by rw [hback]), rfl⟩
      · exact Or.inr ⟨[c], [], .cons hquote hback .nil, Or.inl rfl, rfl⟩
  | cons_cons c d text ih ih' =>
    by_cases hquote : c = quote
    · exact Or.inl ⟨[], d :: text, .nil, by rw [hquote]; rfl⟩
    · by_cases hback : c = '\\'
      · subst hback
        rcases ih with ⟨content, rest, hcontent, rfl⟩ | ⟨content, tail, hcontent, htail, rfl⟩
        · exact Or.inl ⟨'\\' :: d :: content, rest, .escape hcontent, rfl⟩
        · exact Or.inr ⟨'\\' :: d :: content, tail, .escape hcontent, htail, rfl⟩
      · rcases ih' d with ⟨content, rest, hcontent, h⟩ | ⟨content, tail, hcontent, htail, h⟩
        · exact Or.inl ⟨c :: content, rest, .cons hquote hback hcontent, congrArg (c :: ·) h⟩
        · exact Or.inr ⟨c :: content, tail, .cons hquote hback hcontent, htail,
            congrArg (c :: ·) h⟩

/-- Every line is made of code, literals and comments. -/
theorem exists_masksTo (line : List Char) : ∃ shown e, MasksTo line shown e := by
  -- by induction on the length: a closed literal takes up more than one character
  induction hn : line.length using Nat.strong_induction_on generalizing line with
  | _ n ih =>
    cases line with
    | nil => exact ⟨[], .code, .nil⟩
    | cons c line =>
      by_cases hquote : IsQuote c
      · rcases exists_content c line with
          ⟨content, rest, hcontent, rfl⟩ | ⟨content, tail, hcontent, htail, rfl⟩
        · have hlt : rest.length < n := by
            rw [← hn, List.length_cons, List.length_append, List.length_cons]
            omega
          obtain ⟨shown, e, h⟩ := ih rest.length hlt rest rfl
          exact ⟨_, e, .closed hquote hcontent h⟩
        · exact ⟨_, .literal, .unclosed hquote hcontent htail⟩
      · by_cases hslash : c = '/' → line.head? ≠ some '/'
        · have hlt : line.length < n := by
            rw [← hn, List.length_cons]
            omega
          obtain ⟨shown, e, h⟩ := ih line.length hlt line rfl
          exact ⟨_, e, .code hquote hslash h⟩
        · obtain ⟨rfl, hhead⟩ : c = '/' ∧ line.head? = some '/' := by simpa using hslash
          obtain ⟨rest, rfl⟩ := List.head?_eq_some_iff.mp hhead
          exact ⟨_, .comment, .comment rest⟩

/-- Nothing but a slash is shown as a slash. -/
theorem MasksTo.head?_eq_slash (h : MasksTo line shown e) (hshown : shown.head? = some '/') :
    line.head? = some '/' := by
  cases h with
  | nil => cases hshown
  | code => exact hshown
  | closed => exact hshown
  | unclosed => exact hshown
  | comment => exact absurd hshown (by simp [blanked])

/-- Blanks may stand in every literal. -/
theorem isContent_blanked (hquote : IsQuote quote) (content : List Char) :
    IsContent quote (blanked content) := by
  have hspace : ' ' ≠ quote := by
    rintro rfl
    exact absurd hquote (by decide)
  have hback : ' ' ≠ '\\' := by decide
  induction content with
  | nil => exact .nil
  | cons c content ih => exact .cons hspace hback ih

/-! ### Characters in a literal -/

theorem State.next_of_ne (hquote : c ≠ quote) (hback : c ≠ '\\') :
    (State.inside quote false).next c = .inside quote false := by
  rw [State.next, if_neg hback, if_neg hquote]

theorem State.next_backslash : (State.inside quote false).next '\\' = .inside quote true := rfl

theorem State.next_protected : (State.inside quote true).next c = .inside quote false := rfl

theorem State.shown_of_ne (hquote : c ≠ quote) : (State.inside quote false).shown c = ' ' :=
  if_neg fun h => hquote h.2

theorem State.shown_backslash : (State.inside quote false).shown '\\' = ' ' := rfl

theorem State.shown_protected : (State.inside quote true).shown c = ' ' := rfl

/-- No comment begins in a literal. -/
theorem IsContent.stateAfter_append (h : IsContent quote content) (rest : List Char) :
    stateAfter (.inside quote false) (content ++ rest) = stateAfter (.inside quote false) rest := by
  induction h with
  | nil => rfl
  | cons hquote hback _ ih =>
    rw [List.cons_append, stateAfter_cons rfl, State.next_of_ne hquote hback, ih]
  | escape _ ih =>
    rw [List.cons_append, List.cons_append, stateAfter_cons rfl, State.next_backslash,
      stateAfter_cons rfl, State.next_protected, ih]

/-- The contents of a literal are blanked out. -/
theorem IsContent.maskFrom_append (h : IsContent quote content) (rest : List Char) :
    maskFrom (.inside quote false) (content ++ rest) =
      blanked content ++ maskFrom (.inside quote false) rest := by
  induction h with
  | nil => rfl
  | cons hquote hback _ ih =>
    rw [List.cons_append, maskFrom_cons rfl, State.shown_of_ne hquote,
      State.next_of_ne hquote hback, ih]
    rfl
  | escape _ ih =>
    rw [List.cons_append, List.cons_append, maskFrom_cons rfl, State.shown_backslash,
      State.next_backslash, maskFrom_cons rfl, State.shown_protected, State.next_protected, ih]
    rfl

/-! ### Quotes and code -/

theorem IsQuote.ne_backslash (h : IsQuote quote) : quote ≠ '\\' := by
  rintro rfl
  exact absurd h (by decide)

theorem IsQuote.ne_slash (h : IsQuote quote) : quote ≠ '/' := by
  rintro rfl
  exact absurd h (by decide)

theorem IsQuote.next_outside (h : IsQuote quote) :
    State.next .outside quote = .inside quote false := if_pos h

theorem next_outside_of_not_isQuote (h : ¬ IsQuote c) : State.next .outside c = .outside :=
  if_neg h

/-- A literal is closed by its quote. -/
theorem IsQuote.next_inside (h : IsQuote quote) :
    State.next (.inside quote false) quote = .outside := by
  rw [State.next, if_neg h.ne_backslash, if_pos rfl]

theorem IsQuote.shown_inside (h : IsQuote quote) :
    (State.inside quote false).shown quote = quote :=
  if_pos ⟨h.ne_backslash, rfl⟩

theorem opensComment_outside_eq_false (h : c = '/' → line.head? ≠ some '/') :
    (State.outside).opensComment c line = false := by
  by_cases hc : c = '/'
  · have hhead : (line.head? == some '/') = false := by simpa using h hc
    simp [State.opensComment, hhead]
  · exact State.opensComment_of_ne _ hc line

/-! ### What the scans make of a line -/

/-- Masking shows the code of a line and the quotes of its literals. -/
theorem MasksTo.mask_eq (h : MasksTo line shown e) : mask line = shown := by
  induction h with
  | nil => rfl
  | code hquote hslash _ ih =>
    rw [mask, maskFrom_cons (opensComment_outside_eq_false hslash),
      next_outside_of_not_isQuote hquote]
    exact congrArg _ ih
  | closed hquote hcontent _ ih =>
    rw [mask, maskFrom_cons (State.opensComment_of_ne _ hquote.ne_slash _), hquote.next_outside,
      hcontent.maskFrom_append, maskFrom_cons rfl, hquote.shown_inside, hquote.next_inside]
    exact congrArg _ (congrArg _ (congrArg _ ih))
  | @unclosed quote content tail hquote hcontent htail =>
    have htail' : maskFrom (.inside quote false) tail = blanked tail := by
      rcases htail with rfl | rfl <;> rfl
    rw [mask, maskFrom_cons (State.opensComment_of_ne _ hquote.ne_slash _), hquote.next_outside,
      hcontent.maskFrom_append, htail', ← blanked_append]
    rfl
  | comment rest => exact maskFrom_cons_of_opensComment rfl

/-- What a line ends in, by where the scan stands behind it. -/
def endingOf (line : List Char) : Ending :=
  match stateAfter .outside line with
  | none => .comment
  | some .outside => .code
  | some (.inside _ _) => .literal

theorem MasksTo.endingOf_eq (h : MasksTo line shown e) : endingOf line = e := by
  induction h with
  | nil => rfl
  | code hquote hslash _ ih =>
    rw [endingOf, stateAfter_cons (opensComment_outside_eq_false hslash),
      next_outside_of_not_isQuote hquote]
    exact ih
  | closed hquote hcontent _ ih =>
    rw [endingOf, stateAfter_cons (State.opensComment_of_ne _ hquote.ne_slash _),
      hquote.next_outside, hcontent.stateAfter_append, stateAfter_cons rfl, hquote.next_inside]
    exact ih
  | unclosed hquote hcontent htail =>
    rw [endingOf, stateAfter_cons (State.opensComment_of_ne _ hquote.ne_slash _),
      hquote.next_outside, hcontent.stateAfter_append]
    rcases htail with rfl | rfl
    · rfl
    · rw [stateAfter_cons rfl, State.next_backslash]
      rfl
  | comment rest => rfl

/-- Every line is made of parts in one way only, as far as what is shown of it and what it ends in
are concerned, and the scan finds them. -/
theorem masksTo_iff : MasksTo line shown e ↔ mask line = shown ∧ endingOf line = e := by
  constructor
  · intro h
    exact ⟨h.mask_eq, h.endingOf_eq⟩
  · rintro ⟨rfl, rfl⟩
    obtain ⟨shown, e, h⟩ := exists_masksTo line
    rwa [h.mask_eq, h.endingOf_eq]

theorem masksTo_mask (line : List Char) : MasksTo line (mask line) (endingOf line) :=
  masksTo_iff.mpr ⟨rfl, rfl⟩

/-! ### The open literal -/

/-- What a scan knows of the literal that it stands in. -/
def State.openQuote : State → OpenQuote
  | .outside => {}
  | .inside quote escaped => ⟨some quote, escaped⟩

/-- Where no comment is looked for, the open literal is known from character to character as the
scan knows it. -/
theorem State.openQuote_next (s : State) (c : Char) :
    (s.next c).openQuote = s.openQuote.next c := by
  match s with
  | .outside =>
    rw [State.next, apply_ite State.openQuote]
    rfl
  | .inside _ true => rfl
  | .inside _ false =>
    rw [State.next, apply_ite State.openQuote, apply_ite State.openQuote]
    rfl

/-- Behind a piece in which no comment begins the open literal is the one that the scan stands
in. -/
theorem foldl_next_openQuote (h : stateAfter s line = some s') :
    line.foldl OpenQuote.next s.openQuote = s'.openQuote := by
  -- both machines start in the same literal and go on side by side
  induction line generalizing s with
  | nil =>
    obtain rfl := Option.some.inj h
    rfl
  | cons c rest ih =>
    cases hopens : s.opensComment c rest with
    | true =>
      rw [stateAfter, if_pos hopens] at h
      cases h
    | false =>
      rw [stateAfter_cons hopens] at h
      rw [List.foldl_cons, ← State.openQuote_next]
      exact ih h

/-- In a line without a comment a literal is open exactly if the scan ends in one. -/
theorem isOpenAfter_iff_endingOf (h : endingOf line ≠ .comment) :
    isOpenAfter line = true ↔ endingOf line = .literal := by
  cases hstate : stateAfter .outside line with
  | none => exact absurd (by rw [endingOf, hstate]) h
  | some s =>
    have hquote : line.foldl OpenQuote.next {} = s.openQuote := foldl_next_openQuote hstate
    rw [isOpenAfter, hquote, endingOf, hstate]
    cases s with
    | outside => decide
    | inside quote escaped => exact iff_of_true rfl rfl

/-- In a line without a comment a literal is open exactly if the line ends in one. -/
theorem MasksTo.isOpenAfter_iff (h : MasksTo line shown e) (he : e ≠ .comment) :
    isOpenAfter line = true ↔ e = .literal := by
  rw [← h.endingOf_eq] at he ⊢
  exact isOpenAfter_iff_endingOf he

/-! ### Comments -/

/-- A comment begins in a line: it has two slashes outside of literals, that is behind a piece that
ends in code. -/
def HasComment (line : List Char) : Prop :=
  ∃ a b shown, line = a ++ '/' :: '/' :: b ∧ MasksTo a shown .code

theorem State.opensComment_iff :
    s.opensComment c rest = true ↔ s = .outside ∧ c = '/' ∧ rest.head? = some '/' := by
  simp [State.opensComment, and_assoc]

/-- Whether a comment begins is said by the next character, if there is one. -/
theorem State.opensComment_append_of_opensComment_eq_false
    (h : s.opensComment c (a ++ b) = false) : s.opensComment c a = false := by
  cases a with
  | nil => simp [State.opensComment]
  | cons d a => exact h

/-- The scan stops in a line exactly if it gets to two slashes outside of literals. -/
theorem stateAfter_eq_none_iff :
    stateAfter s line = none ↔
      ∃ a b, line = a ++ '/' :: '/' :: b ∧ stateAfter s a = some .outside := by
  constructor
  · intro h
    induction line generalizing s with
    | nil => cases h
    | cons c rest ih =>
      cases hopens : s.opensComment c rest with
      | true =>
        obtain ⟨rfl, rfl, hhead⟩ := State.opensComment_iff.mp hopens
        obtain ⟨b, rfl⟩ := List.head?_eq_some_iff.mp hhead
        exact ⟨[], b, rfl, rfl⟩
      | false =>
        rw [stateAfter_cons hopens] at h
        obtain ⟨a, b, rfl, ha⟩ := ih h
        have hopens' := State.opensComment_append_of_opensComment_eq_false hopens
        exact ⟨c :: a, b, rfl, by rw [stateAfter_cons hopens', ha]⟩
  · rintro ⟨a, b, rfl, ha⟩
    induction a generalizing s with
    | nil =>
      obtain rfl := Option.some.inj ha
      rfl
    | cons c a ih =>
      cases hopens : s.opensComment c (a ++ '/' :: '/' :: b) with
      | true => rw [List.cons_append, stateAfter, if_pos hopens]
      | false =>
        have hopens' := State.opensComment_append_of_opensComment_eq_false hopens
        rw [stateAfter_cons hopens'] at ha
        rw [List.cons_append, stateAfter_cons hopens, ih ha]

theorem endingOf_eq_comment_iff : endingOf line = .comment ↔ stateAfter .outside line = none := by
  rw [endingOf]
  split <;> simp [*]

theorem endingOf_eq_code_iff :
    endingOf line = .code ↔ stateAfter .outside line = some .outside := by
  rw [endingOf]
  split <;> simp [*]

/-- A line ends in a comment exactly if one begins in it. -/
theorem hasComment_iff : HasComment line ↔ endingOf line = .comment := by
  rw [endingOf_eq_comment_iff, stateAfter_eq_none_iff]
  constructor
  · rintro ⟨a, b, shown, hline, ha⟩
    exact ⟨a, b, hline, endingOf_eq_code_iff.mp ha.endingOf_eq⟩
  · rintro ⟨a, b, hline, ha⟩
    exact ⟨a, b, mask a, hline, masksTo_iff.mpr ⟨rfl, endingOf_eq_code_iff.mpr ha⟩⟩

instance : DecidablePred HasComment := fun _ => decidable_of_iff _ hasComment_iff.symm

end QueryAssist.Literal
