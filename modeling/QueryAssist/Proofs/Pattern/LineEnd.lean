import Mathlib.Data.List.DropRight
import QueryAssist.Proofs.Pattern.Reading

/-!
# Patterns at the end of a line

A pattern that asks for the end of a line can be read from there: its last piece stands right before
the end, and each of the others before what has been read. A run that is read in this way is the
longest one if what has to stand before it ends in a character of another class.

## Main definitions

* `Pattern.ReadBackwards` — what a list of patterns, last one first, reads at the end of a text
* `Pattern.EndIn` — patterns that read only texts with a given last character

## Main results

* `isFoundIn_lineEnd_iff` — such a pattern is found exactly if it can be read from the end
* `readBackwards_run_iff` — the longest run is passed
-/

namespace QueryAssist.Pattern

variable {a b : Pattern} {as bs : List Pattern} {p q : Char → Bool} {Q Q' : Char → Prop}
  {before l after s v line : List Char} {c : Char}

/-! ### Trailing runs -/

/-- Behind a character of another class the whole run is dropped. -/
theorem rdropWhile_append (hv : ∀ c ∈ v, p c = true) (hs : ∀ c ∈ s.getLast?, p c = false) :
    (s ++ v).rdropWhile p = s := by
  have hreverse : ∀ c ∈ v.reverse, p c = true := fun c hc => hv c (List.mem_reverse.mp hc)
  rw [List.rdropWhile, List.reverse_append, List.dropWhile_append_of_pos hreverse,
    ← List.rdropWhile]
  rcases List.eq_nil_or_concat s with rfl | ⟨s, c, rfl⟩
  · rfl
  · have hc : p c = false := hs c (by simp)
    simp [hc]

theorem rtakeWhile_append (hv : ∀ c ∈ v, p c = true) (hs : ∀ c ∈ s.getLast?, p c = false) :
    (s ++ v).rtakeWhile p = v := by
  have hsplit : (s ++ v).rdropWhile p ++ (s ++ v).rtakeWhile p = s ++ v :=
    List.rdropWhile_append_rtakeWhile
  rw [rdropWhile_append hv hs] at hsplit
  exact List.append_cancel_left hsplit

theorem of_mem_getLast?_rdropWhile (hc : c ∈ (s.rdropWhile p).getLast?) : p c = false := by
  obtain ⟨hne, hlast⟩ := List.mem_getLast?_eq_getLast hc
  rw [hlast, ← Bool.not_eq_true]
  exact List.rdropWhile_last_not p s hne

/-! ### Reading backwards -/

/-- The patterns read the end of `s` one after the other: the first of them what stands right before
`after`, and each of the others what stands before that. -/
def ReadBackwards : (as : List Pattern) → (s after : List Char) → Prop
  | [], _, _ => True
  | a :: as, s, after => ∃ front l, s = front ++ l ∧ a.Reads front l after ∧
      ReadBackwards as front (l ++ after)

theorem reads_sequence_append :
    (sequence (as ++ bs)).Reads before l after ↔
      ∃ l₁ l₂, l = l₁ ++ l₂ ∧ (sequence as).Reads before l₁ (l₂ ++ after) ∧
        (sequence bs).Reads (before ++ l₁) l₂ after := by
  induction as generalizing before l with
  | nil =>
    constructor
    · intro h
      exact ⟨[], l, rfl, rfl, by rwa [List.append_nil]⟩
    · rintro ⟨l₁, l₂, rfl, rfl, h⟩
      rwa [List.append_nil] at h
  | cons a as ih =>
    rw [List.cons_append, reads_sequence_cons]
    constructor
    · rintro ⟨l₁, l₂, rfl, ha, h⟩
      obtain ⟨l₂, l₃, rfl, has, hbs⟩ := ih.mp h
      rw [List.append_assoc] at ha hbs
      exact ⟨l₁ ++ l₂, l₃, (List.append_assoc ..).symm, reads_sequence_cons.mpr
        ⟨l₁, l₂, rfl, ha, has⟩, hbs⟩
    · rintro ⟨l', l₃, rfl, h, hbs⟩
      obtain ⟨l₁, l₂, rfl, ha, has⟩ := reads_sequence_cons.mp h
      rw [← List.append_assoc] at hbs
      rw [← List.append_assoc] at ha
      exact ⟨l₁, l₂ ++ l₃, List.append_assoc .., ha, ih.mpr ⟨l₂, l₃, rfl, has, hbs⟩⟩

/-- Reading backwards is reading the sequence somewhere before the end. -/
theorem readBackwards_iff :
    ReadBackwards as s after ↔
      ∃ before l, s = before ++ l ∧ (sequence as.reverse).Reads before l after := by
  induction as generalizing s after with
  | nil =>
    constructor
    · intro _
      exact ⟨s, [], (List.append_nil s).symm, rfl⟩
    · intro _
      trivial
  | cons a as ih =>
    have hsingle : ∀ {before l after}, (sequence [a]).Reads before l after ↔
        a.Reads before l after := Iff.rfl
    simp only [List.reverse_cons, reads_sequence_append, hsingle, ReadBackwards, ih]
    constructor
    · rintro ⟨-, l, rfl, ha, before, l', rfl, has⟩
      exact ⟨before, l' ++ l, List.append_assoc .., l', l, rfl, has, ha⟩
    · rintro ⟨before, -, rfl, l', l, rfl, has, ha⟩
      exact ⟨before ++ l', l, (List.append_assoc ..).symm, ha, before, l', rfl, has⟩

/-- A sequence in front of the end of the line is found exactly if it can be read from there. -/
theorem isFoundIn_seq_lineEnd_iff (as : List Pattern) (line : List Char) :
    (seq (sequence as.reverse) .lineEnd).isFoundIn line = true ↔ ReadBackwards as line [] := by
  rw [isFoundIn_iff, readBackwards_iff]
  constructor
  · rintro ⟨before, -, after, rfl, l, -, rfl, h, rfl, rfl⟩
    exact ⟨before, l, by simp, h⟩
  · rintro ⟨before, l, rfl, h⟩
    exact ⟨before, l, [], by simp, l, [], by simp, h, rfl, rfl⟩

theorem isFoundIn_lineEnd_iff (as : List Pattern) (line : List Char) :
    (sequence (as.reverse ++ [.lineEnd])).isFoundIn line = true ↔ ReadBackwards as line [] := by
  rw [← isFoundIn_seq_lineEnd_iff, isFoundIn_iff, isFoundIn_iff]
  simp only [reads_sequence_append]
  rfl

theorem isFoundIn_seq_alt_iff {d : Pattern} :
    (seq (alt a b) d).isFoundIn line = true ↔
      (seq a d).isFoundIn line = true ∨ (seq b d).isFoundIn line = true := by
  simp only [isFoundIn_iff, Reads, or_and_right, and_or_left, exists_or]

theorem isFoundIn_alt_iff :
    (alt a b).isFoundIn line = true ↔ a.isFoundIn line = true ∨ b.isFoundIn line = true := by
  simp only [isFoundIn_iff, Reads, and_or_left, exists_or]

/-! ### The last character -/

/-- Every text at whose end the patterns can be read ends in a character with the property `Q`. -/
def EndIn (as : List Pattern) (Q : Char → Prop) : Prop :=
  ∀ s after, ReadBackwards as s after → ∃ c ∈ s.getLast?, Q c

theorem EndIn.mono (h : EndIn as Q) (himp : ∀ c, Q c → Q' c) : EndIn as Q' := by
  intro s after hs
  obtain ⟨c, hc, hQ⟩ := h s after hs
  exact ⟨c, hc, himp c hQ⟩

/-- What is read last ends in such a character. -/
theorem endIn_cons (h : ∀ {before l after}, a.Reads before l after → ∃ c ∈ l.getLast?, Q c) :
    EndIn (a :: as) Q := by
  rintro s after ⟨front, l, rfl, hread, -⟩
  obtain ⟨c, hc, hQ⟩ := h hread
  exact ⟨c, List.mem_getLast?_append_of_mem_getLast? hc, hQ⟩

theorem endIn_one : EndIn (.one p :: as) fun c => p c = true := by
  apply endIn_cons
  rintro before - after ⟨c, hc, rfl⟩
  exact ⟨c, rfl, hc⟩

theorem endIn_char : EndIn (char c :: as) (· = c) :=
  endIn_one.mono fun _ => beq_iff_eq.mp

theorem endIn_run1 : EndIn (run1 p :: as) fun c => p c = true := by
  apply endIn_cons
  intro before l after h
  obtain ⟨hne, hall⟩ := reads_run1.mp h
  exact ⟨l.getLast hne, List.getLast?_eq_some_getLast hne, hall _ (List.getLast_mem hne)⟩

/-- What may be empty leaves the last character to what stands before it. -/
theorem EndIn.cons (has : EndIn as Q)
    (h : ∀ {before l after}, a.Reads before l after → l ≠ [] → ∃ c ∈ l.getLast?, Q c) :
    EndIn (a :: as) Q := by
  rintro s after ⟨front, l, rfl, hread, hback⟩
  rcases eq_or_ne l [] with rfl | hne
  · rw [List.append_nil]
    exact has front after hback
  · obtain ⟨c, hc, hQ⟩ := h hread hne
    exact ⟨c, List.mem_getLast?_append_of_mem_getLast? hc, hQ⟩

theorem EndIn.run (has : EndIn as Q) (hp : ∀ c, p c = true → Q c) : EndIn (.run p :: as) Q := by
  apply has.cons
  intro before l after hall hne
  exact ⟨l.getLast hne, List.getLast?_eq_some_getLast hne, hp _ (hall _ (List.getLast_mem hne))⟩

theorem EndIn.optional_one (has : EndIn as Q) (hp : ∀ c, p c = true → Q c) :
    EndIn (optional (.one p) :: as) Q := by
  apply has.cons
  intro before l after h hne
  obtain ⟨c, hc, rfl⟩ := (reads_optional.mp h).resolve_right hne
  exact ⟨c, rfl, hp c hc⟩

theorem EndIn.alt (ha : EndIn (a :: as) Q) (hb : EndIn (b :: as) Q) : EndIn (.alt a b :: as) Q := by
  rintro s after ⟨front, l, rfl, h | h, hback⟩
  · exact ha _ after ⟨front, l, rfl, h, hback⟩
  · exact hb _ after ⟨front, l, rfl, h, hback⟩

/-- The rounds of a repetition end like its last piece. -/
theorem EndIn.star (has : EndIn as Q) (hbs : EndIn bs Q) :
    EndIn (.star (sequence bs.reverse) :: as) Q := by
  apply has.cons
  intro before l after hrounds hne
  -- the last round gives the last character
  induction hrounds with
  | nil => exact (hne rfl).elim
  | @append before l l' after hl hread _ ih =>
    rcases eq_or_ne l' [] with rfl | hne'
    · obtain ⟨c, hc, hQ⟩ := hbs _ _ (readBackwards_iff.mpr ⟨before, l, rfl, hread⟩)
      rw [List.getLast?_append_of_ne_nil before hl] at hc
      rw [List.append_nil]
      exact ⟨c, hc, hQ⟩
    · obtain ⟨c, hc, hQ⟩ := ih hne'
      exact ⟨c, List.mem_getLast?_append_of_mem_getLast? hc, hQ⟩

/-! ### Steps -/

/-- In front of everything else the beginning of the line is asked for. -/
theorem readBackwards_lineStart_iff :
    ReadBackwards [a, .lineStart] s after ↔ a.Reads [] s after := by
  constructor
  · rintro ⟨-, l, rfl, ha, front, -, rfl, ⟨rfl, rfl⟩, -⟩
    exact ha
  · intro ha
    exact ⟨[], s, rfl, ha, [], [], rfl, ⟨rfl, rfl⟩, trivial⟩

/-- A run behind a character of another class is the longest one. -/
theorem readBackwards_run_iff (has : EndIn as Q) (hQ : ∀ c, Q c → p c = false) :
    ReadBackwards (.run p :: as) s after ↔
      ReadBackwards as (s.rdropWhile p) (s.rtakeWhile p ++ after) := by
  constructor
  · rintro ⟨front, l, rfl, hl, hback⟩
    -- whatever run was read, it begins behind a character of another class
    obtain ⟨d, hd, hdQ⟩ := has front _ hback
    have hlast : ∀ c ∈ front.getLast?, p c = false := by
      intro c hc
      rw [Option.mem_unique hc hd]
      exact hQ d hdQ
    rwa [rdropWhile_append hl hlast, rtakeWhile_append hl hlast]
  · intro h
    exact ⟨_, _, List.rdropWhile_append_rtakeWhile.symm,
      fun c hc => List.mem_rtakeWhile_imp hc, h⟩

/-- Behind a character of another class a run is empty. -/
theorem readBackwards_run_of_getLast? (hs : ∀ c ∈ s.getLast?, p c = false) :
    ReadBackwards (.run p :: as) s after ↔ ReadBackwards as s after := by
  constructor
  · rintro ⟨front, l, rfl, hl, hback⟩
    rcases List.eq_nil_or_concat l with rfl | ⟨l, c, rfl⟩
    · rwa [List.append_nil]
    · have hc : p c = false := hs c (by simp)
      have hpc : p c = true := hl c (by simp)
      rw [hc] at hpc
      cases hpc
  · intro h
    exact ⟨s, [], (List.append_nil s).symm, List.forall_mem_nil _, h⟩

/-- For a nonempty run the text has to end in a character of the class. -/
theorem readBackwards_run1_iff (has : EndIn as Q) (hQ : ∀ c, Q c → p c = false) :
    ReadBackwards (run1 p :: as) s after ↔ s.getLast?.any p = true ∧
      ReadBackwards as (s.rdropWhile p) (s.rtakeWhile p ++ after) := by
  rw [← readBackwards_run_iff has hQ]
  constructor
  · intro h
    obtain ⟨c, hc, hpc⟩ := endIn_run1 s after h
    obtain ⟨front, l, rfl, hread, hback⟩ := h
    refine ⟨?_, front, l, rfl, (reads_run1.mp hread).2, hback⟩
    rw [Option.mem_def.mp hc]
    exact hpc
  · rintro ⟨hlast, front, l, rfl, hl, hback⟩
    refine ⟨front, l, rfl, reads_run1.mpr ⟨?_, hl⟩, hback⟩
    rintro rfl
    obtain ⟨d, hd, hdQ⟩ := has front _ hback
    rw [List.append_nil, Option.mem_def.mp hd] at hlast
    exact Bool.false_ne_true ((hQ d hdQ).symm.trans hlast)

theorem readBackwards_alt_iff :
    ReadBackwards (.alt a b :: as) s after ↔
      ReadBackwards (a :: as) s after ∨ ReadBackwards (b :: as) s after := by
  simp only [ReadBackwards, Reads, or_and_right, and_or_left, exists_or]

theorem readBackwards_seq_iff :
    ReadBackwards (.seq a b :: as) s after ↔ ReadBackwards (b :: a :: as) s after := by
  constructor
  · rintro ⟨front, -, rfl, ⟨l₁, l₂, rfl, ha, hb⟩, hback⟩
    rw [List.append_assoc] at hback
    exact ⟨front ++ l₁, l₂, (List.append_assoc ..).symm, hb, front, l₁, rfl, ha, hback⟩
  · rintro ⟨-, l₂, rfl, hb, front, l₁, rfl, ha, hback⟩
    rw [← List.append_assoc] at hback
    exact ⟨front, l₁ ++ l₂, List.append_assoc .., ⟨l₁, l₂, rfl, ha, hb⟩, hback⟩

theorem EndIn.seq (h : EndIn (b :: a :: as) Q) : EndIn (.seq a b :: as) Q :=
  fun s after hs => h s after (readBackwards_seq_iff.mp hs)

theorem readBackwards_one_iff :
    ReadBackwards (.one p :: as) s after ↔
      ∃ c ∈ s.getLast?, p c = true ∧ ReadBackwards as s.dropLast (c :: after) := by
  constructor
  · rintro ⟨front, l, rfl, ⟨c, hc, rfl⟩, hback⟩
    rw [List.getLast?_concat, List.dropLast_concat]
    exact ⟨c, rfl, hc, hback⟩
  · rintro ⟨c, hlast, hc, hback⟩
    obtain ⟨front, rfl⟩ := List.getLast?_eq_some_iff.mp hlast
    rw [List.dropLast_concat] at hback
    exact ⟨front, [c], rfl, ⟨c, hc, rfl⟩, hback⟩

theorem readBackwards_char_iff :
    ReadBackwards (char c :: as) s after ↔
      s.getLast? = some c ∧ ReadBackwards as s.dropLast (c :: after) := by
  rw [char, readBackwards_one_iff]
  constructor
  · rintro ⟨d, hlast, hd, hback⟩
    obtain rfl := beq_iff_eq.mp hd
    exact ⟨hlast, hback⟩
  · rintro ⟨hlast, hback⟩
    exact ⟨c, hlast, beq_iff_eq.mpr rfl, hback⟩

/-- Where a character may be read, it is the last one of the class, or there is none. -/
theorem readBackwards_optional_one_iff (has : EndIn as Q) (hQ : ∀ c, Q c → p c = false) :
    ReadBackwards (optional (.one p) :: as) s after ↔
      if s.getLast?.any p then ReadBackwards as s.dropLast (s.getLast?.toList ++ after)
      else ReadBackwards as s after := by
  have hnone : ReadBackwards (.empty :: as) s after ↔ ReadBackwards as s after := by
    constructor
    · rintro ⟨front, l, rfl, rfl, hback⟩
      rwa [List.append_nil]
    · intro hback
      exact ⟨s, [], (List.append_nil s).symm, rfl, hback⟩
  rw [optional, readBackwards_alt_iff, readBackwards_one_iff, hnone]
  cases hlast : s.getLast? with
  | none => simp
  | some c =>
    cases hc : p c with
    | false => simp [hc]
    | true =>
      -- the character cannot be left to what stands before it
      have hnot : ¬ ReadBackwards as s after := by
        intro hback
        obtain ⟨d, hd, hdQ⟩ := has s after hback
        rw [hlast] at hd
        obtain rfl := Option.some.inj hd
        exact Bool.false_ne_true ((hQ c hdQ).symm.trans hc)
      simp [hc, hnot]

end QueryAssist.Pattern
