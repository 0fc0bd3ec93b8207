import Mathlib.Data.List.TakeWhile
import QueryAssist.Proofs.Pattern.Search

/-!
# The texts a pattern reads

What a pattern reads between two other texts is said here by recursion on the pattern, without
places and without an order of preference. A pattern is found in a line exactly if it reads some
part of it.

## Main definitions

* `Pattern.Reads` — a pattern can read a text between two others
* `Pattern.Rounds` — a text that is read by a repetition
* `Pattern.Place.Moves` — one place lies behind another one, with a given text between them

## Main results

* `exists_mem_places_iff` — a pattern leads to a place exactly if it reads the text up to there
* `isFoundIn_iff` — a pattern is found in a line exactly if it reads a part of it
* `reads_word` — a word is read in any mixture of cases
-/

namespace QueryAssist.Pattern

variable {a b : Pattern} {p : Char → Bool} {s t u : Place} {c : Char}
  {before l l' after rest line : List Char} {R : List Char → List Char → List Char → Prop} {n : Nat}

/-- Texts one behind the other that are read in turn, none of them empty. -/
inductive Rounds (R : List Char → List Char → List Char → Prop) :
    (before l after : List Char) → Prop
  | nil (before after : List Char) : Rounds R before [] after
  | append {before l l' after : List Char} (hne : l ≠ []) (h : R before l (l' ++ after))
      (hrest : Rounds R (before ++ l) l' after) : Rounds R before (l ++ l') after

/-- The pattern can read `l` if `before` stands before it and `after` behind it. -/
def Reads : Pattern → (before l after : List Char) → Prop
  | .empty, _, l, _ => l = []
  | .one p, _, l, _ => ∃ c, p c = true ∧ l = [c]
  | .run p, _, l, _ => ∀ c ∈ l, p c = true
  | .seq a b, before, l, after => ∃ l₁ l₂, l = l₁ ++ l₂ ∧ a.Reads before l₁ (l₂ ++ after) ∧
      b.Reads (before ++ l₁) l₂ after
  | .alt a b, before, l, after => a.Reads before l after ∨ b.Reads before l after
  | .star a, before, l, after => Rounds a.Reads before l after
  | .group _ a, before, l, after => a.Reads before l after
  | .lineStart, before, l, _ => l = [] ∧ before = []
  | .lineEnd, _, l, after => l = [] ∧ after = []
  | .wordBoundary, before, l, after => l = [] ∧
      ((before.getLast?.map Text.isWord).getD false ≠ (after.head?.map Text.isWord).getD false)

/-! ### Places one behind the other -/

/-- The place `t` lies behind `s` with the text `l` between them. -/
structure Place.Moves (s : Place) (l : List Char) (t : Place) : Prop where
  /-- The text is what comes next at the first place. -/
  after_eq : s.after = l ++ t.after
  /-- It is what comes last before the second one. -/
  before_eq : t.before = l.reverse ++ s.before
  /-- The columns are apart by its length. -/
  column_eq : t.column = s.column + l.length

theorem Place.Moves.refl (s : Place) : s.Moves [] s := ⟨rfl, rfl, rfl⟩

theorem Place.Moves.trans (h : s.Moves l t) (h' : t.Moves l' u) : s.Moves (l ++ l') u where
  after_eq := by rw [h.after_eq, h'.after_eq, List.append_assoc]
  before_eq := by rw [h'.before_eq, h.before_eq, List.reverse_append, List.append_assoc]
  column_eq := by
    rw [h'.column_eq, h.column_eq, List.length_append]
    omega

theorem Place.moves_skip (h : s.after = l ++ rest) : s.Moves l (s.skip l.length) where
  after_eq := by rw [Place.after_skip, h, List.drop_left]
  before_eq := by simp [Place.skip, h]
  column_eq := rfl

theorem Place.Moves.reverse_before (h : s.Moves l t) :
    t.before.reverse = s.before.reverse ++ l := by
  rw [h.before_eq, List.reverse_append, List.reverse_reverse]

theorem Place.Moves.eq_of_after (h : s.Moves l t) (hafter : s.after = l ++ rest) :
    t.after = rest := List.append_cancel_left (h.after_eq.symm.trans hafter)

/-! ### The places of a pattern -/

theorem mem_of_le_runLength {k : Nat} (hk : k ≤ runLength p l) (hc : c ∈ l.take k) :
    p c = true := by
  have hbegins : l.take k <+: l.takeWhile p :=
    List.prefix_of_prefix_length_le (List.take_prefix k l) (List.takeWhile_prefix p)
      (Nat.le_trans (List.length_take_le k l) hk)
  exact List.mem_takeWhile_imp (hbegins.subset hc)

theorem rounds_of_mem_starPlaces {round : Place → List Place}
    (hround : ∀ {s t}, t ∈ round s → ∃ l, s.Moves l t ∧ R s.before.reverse l t.after)
    (ht : t ∈ starPlaces round n s) :
    ∃ l, s.Moves l t ∧ Rounds R s.before.reverse l t.after := by
  -- the induction is on the rounds that are allowed; only a round that moves on is kept
  induction n generalizing s with
  | zero =>
    obtain rfl := List.mem_singleton.mp ht
    exact ⟨[], .refl t, .nil _ _⟩
  | succ n ih =>
    rw [starPlaces, List.mem_append] at ht
    rcases ht with ht | ht
    · obtain ⟨u, hu, ht⟩ := List.mem_flatMap.mp ht
      obtain ⟨hu, hcolumn⟩ := List.mem_filter.mp hu
      obtain ⟨l, hl, hread⟩ := hround hu
      obtain ⟨l', hl', hrounds⟩ := ih ht
      have hne : l ≠ [] := by
        rintro rfl
        simp [hl.column_eq] at hcolumn
      rw [hl.reverse_before] at hrounds
      exact ⟨l ++ l', hl.trans hl', .append hne (hl'.after_eq ▸ hread) hrounds⟩
    · obtain rfl := List.mem_singleton.mp ht
      exact ⟨[], .refl t, .nil _ _⟩

/-- A pattern has read the text between the places from which and to which it leads. -/
theorem reads_of_mem_places (ht : t ∈ a.places s) :
    ∃ l, s.Moves l t ∧ a.Reads s.before.reverse l t.after := by
  induction a generalizing s t with
  | empty =>
    obtain rfl := List.mem_singleton.mp ht
    exact ⟨[], .refl t, rfl⟩
  | one p =>
    rw [places] at ht
    split at ht
    · cases ht
    · rename_i c rest hafter
      split at ht
      · rename_i hc
        obtain rfl := List.mem_singleton.mp ht
        rw [Place.step_eq_skip hafter]
        exact ⟨[c], Place.moves_skip hafter, c, hc, rfl⟩
      · cases ht
  | run p =>
    rw [places_run, List.mem_map] at ht
    obtain ⟨k, hk, rfl⟩ := ht
    have hle : k ≤ runLength p s.after := by
      rw [List.mem_reverse, List.mem_range] at hk
      omega
    have hlength : (s.after.take k).length = k := by
      rw [List.length_take, Nat.min_eq_left]
      exact Nat.le_trans hle (List.takeWhile_prefix p).length_le
    have hmoves := Place.moves_skip (s := s) (List.take_append_drop k s.after).symm
    rw [hlength] at hmoves
    exact ⟨s.after.take k, hmoves, fun c hc => mem_of_le_runLength hle hc⟩
  | seq a b iha ihb =>
    obtain ⟨u, hu, ht⟩ := List.mem_flatMap.mp ht
    obtain ⟨l, hl, hread⟩ := iha hu
    obtain ⟨l', hl', hread'⟩ := ihb ht
    rw [hl.reverse_before] at hread'
    exact ⟨l ++ l', hl.trans hl', l, l', rfl, hl'.after_eq ▸ hread, hread'⟩
  | alt a b iha ihb =>
    rcases List.mem_append.mp ht with ht | ht
    · obtain ⟨l, hl, hread⟩ := iha ht
      exact ⟨l, hl, Or.inl hread⟩
    · obtain ⟨l, hl, hread⟩ := ihb ht
      exact ⟨l, hl, Or.inr hread⟩
  | star a ih => exact rounds_of_mem_starPlaces ih ht
  | group k a ih =>
    -- a group records a span and leaves the place where it is
    obtain ⟨t', ht', rfl⟩ := List.mem_map.mp ht
    obtain ⟨l, hl, hread⟩ := ih ht'
    exact ⟨l, ⟨hl.after_eq, hl.before_eq, hl.column_eq⟩, hread⟩
  | lineStart =>
    rw [places] at ht
    split at ht
    · rename_i hbefore
      obtain rfl := List.mem_singleton.mp ht
      exact ⟨[], .refl t, rfl, by simpa using hbefore⟩
    · cases ht
  | lineEnd =>
    rw [places] at ht
    split at ht
    · rename_i hafter
      obtain rfl := List.mem_singleton.mp ht
      exact ⟨[], .refl t, rfl, by simpa using hafter⟩
    · cases ht
  | wordBoundary =>
    rw [places] at ht
    split at ht
    · rename_i hboundary
      obtain rfl := List.mem_singleton.mp ht
      exact ⟨[], .refl t, rfl, by simpa [Place.atWordBoundary] using hboundary⟩
    · cases ht

theorem exists_mem_starPlaces {round : Place → List Place}
    (hround : ∀ {s l rest}, R s.before.reverse l rest → s.after = l ++ rest →
      ∃ t ∈ round s, s.Moves l t)
    (h : Rounds R before l rest) (hbefore : s.before.reverse = before)
    (hafter : s.after = l ++ rest) (hn : l.length ≤ n) :
    ∃ t ∈ starPlaces round n s, s.Moves l t := by
  induction h generalizing n s with
  | nil before after =>
    -- no round at all is always possible, and comes last
    cases n with
    | zero => exact ⟨s, List.mem_singleton_self s, .refl s⟩
    | succ n => exact ⟨s, List.mem_append_right _ (List.mem_singleton_self s), .refl s⟩
  | @append before l l' after hne h _ ih =>
    rw [List.append_assoc] at hafter
    obtain ⟨u, hu, hl⟩ := hround (hbefore ▸ h) hafter
    have hpos := List.length_pos_iff.mpr hne
    rw [List.length_append] at hn
    -- the round is not empty, so the rounds that are left are enough for the rest
    obtain ⟨n, rfl⟩ := Nat.exists_eq_add_of_le' (Nat.lt_of_lt_of_le hpos (by omega : l.length ≤ n))
    obtain ⟨t, ht, hl'⟩ := ih (n := n) (hbefore ▸ hl.reverse_before) (hl.eq_of_after hafter)
      (by omega)
    refine ⟨t, List.mem_append_left _ (List.mem_flatMap.mpr ⟨u, ?_, ht⟩), hl.trans hl'⟩
    apply List.mem_filter.mpr
    rw [hl.column_eq]
    exact ⟨hu, by simpa using hpos⟩

/-- To every text that it reads a pattern leads. -/
theorem exists_mem_places (h : a.Reads s.before.reverse l rest) (hafter : s.after = l ++ rest) :
    ∃ t ∈ a.places s, s.Moves l t := by
  induction a generalizing s l rest with
  | empty =>
    obtain rfl : l = [] := h
    exact ⟨s, List.mem_singleton_self s, .refl s⟩
  | one p =>
    obtain ⟨c, hc, rfl⟩ := h
    rw [List.singleton_append] at hafter
    refine ⟨s.skip 1, ?_, Place.moves_skip hafter⟩
    rw [places, hafter]
    simp only [hc, if_true, Place.step_eq_skip hafter, List.mem_singleton]
  | run p =>
    have hle : l.length ≤ runLength p s.after := by
      rw [runLength, hafter, List.takeWhile_append_of_pos h, List.length_append]
      exact Nat.le_add_right _ _
    refine ⟨s.skip l.length, ?_, Place.moves_skip hafter⟩
    rw [places_run]
    exact List.mem_map_of_mem (List.mem_reverse.mpr (List.mem_range.mpr (Nat.lt_succ_of_le hle)))
  | seq a b iha ihb =>
    obtain ⟨l₁, l₂, rfl, hread, hread'⟩ := h
    rw [List.append_assoc] at hafter
    obtain ⟨u, hu, hl⟩ := iha hread hafter
    rw [← hl.reverse_before] at hread'
    obtain ⟨t, ht, hl'⟩ := ihb hread' (hl.eq_of_after hafter)
    exact ⟨t, List.mem_flatMap.mpr ⟨u, hu, ht⟩, hl.trans hl'⟩
  | alt a b iha ihb =>
    rcases h with h | h
    · obtain ⟨t, ht, hl⟩ := iha h hafter
      exact ⟨t, List.mem_append_left _ ht, hl⟩
    · obtain ⟨t, ht, hl⟩ := ihb h hafter
      exact ⟨t, List.mem_append_right _ ht, hl⟩
  | star a ih =>
    -- as many rounds are allowed as there are characters ahead
    have hle : l.length ≤ s.after.length := by
      rw [hafter, List.length_append]
      exact Nat.le_add_right _ _
    exact exists_mem_starPlaces ih h rfl hafter hle
  | group k a ih =>
    obtain ⟨t, ht, hl⟩ := ih h hafter
    exact ⟨_, List.mem_map_of_mem ht, hl.after_eq, hl.before_eq, hl.column_eq⟩
  | lineStart | lineEnd | wordBoundary =>
    obtain ⟨rfl, h⟩ := h
    refine ⟨s, ?_, .refl s⟩
    rw [List.nil_append] at hafter
    simp_all [places, Place.atWordBoundary]

/-- A pattern leads to a place exactly if it reads the text up to there. -/
theorem exists_mem_places_iff (hafter : s.after = l ++ rest) :
    (∃ t ∈ a.places s, s.Moves l t) ↔ a.Reads s.before.reverse l rest := by
  constructor
  · rintro ⟨t, ht, hl⟩
    obtain ⟨l', hl', hread⟩ := reads_of_mem_places ht
    have hlength : l.length = l'.length := by
      have hcolumn := hl.column_eq.symm.trans hl'.column_eq
      omega
    obtain ⟨rfl, -⟩ := List.append_inj (hl.after_eq.symm.trans hl'.after_eq) hlength
    exact hl.eq_of_after hafter ▸ hread
  · intro h
    exact exists_mem_places h hafter

/-! ### Searches -/

theorem isSome_matchAt?_iff :
    (a.matchAt? s).isSome = true ↔
      ∃ l after, s.after = l ++ after ∧ a.Reads s.before.reverse l after := by
  rw [matchAt?, Option.isSome_map, List.isSome_head?]
  constructor
  · intro hne
    obtain ⟨t, ht⟩ := List.exists_mem_of_ne_nil _ hne
    obtain ⟨l, hl, hread⟩ := reads_of_mem_places ht
    exact ⟨l, t.after, hl.after_eq, hread⟩
  · rintro ⟨l, after, hafter, hread⟩
    obtain ⟨t, ht, -⟩ := exists_mem_places (s := { s with groups := [] }) hread hafter
    exact List.ne_nil_of_mem ht

theorem isSome_findFrom?_iff (hafter : s.after = rest) :
    (a.findFrom? rest s).isSome = true ↔
      ∃ passed l after, rest = passed ++ l ++ after ∧
        a.Reads (s.before.reverse ++ passed) l after := by
  induction rest generalizing s with
  | nil =>
    rw [findFrom?, isSome_matchAt?_iff, hafter]
    constructor
    · rintro ⟨l, after, hnil, hread⟩
      exact ⟨[], l, after, hnil, by rwa [List.append_nil]⟩
    · rintro ⟨passed, l, after, hnil, hread⟩
      obtain ⟨hleft, rfl⟩ := List.append_eq_nil_iff.mp hnil.symm
      obtain ⟨rfl, rfl⟩ := List.append_eq_nil_iff.mp hleft
      exact ⟨[], [], rfl, by rwa [List.append_nil] at hread⟩
  | cons c rest ih =>
    have hbefore : (s.step c rest).before.reverse = s.before.reverse ++ [c] := by
      rw [Place.step, List.reverse_cons]
    rw [findFrom?, Option.isSome_or, Bool.or_eq_true, isSome_matchAt?_iff, ih rfl, hafter, hbefore]
    constructor
    · rintro (⟨l, after, heq, hread⟩ | ⟨passed, l, after, rfl, hread⟩)
      · exact ⟨[], l, after, heq, by rwa [List.append_nil]⟩
      · exact ⟨c :: passed, l, after, rfl, by rwa [List.append_assoc] at hread⟩
    · rintro ⟨passed, l, after, heq, hread⟩
      cases passed with
      | nil => exact Or.inl ⟨l, after, heq, by rwa [List.append_nil] at hread⟩
      | cons d passed =>
        rw [List.cons_append, List.cons_append, List.cons.injEq] at heq
        obtain ⟨rfl, rfl⟩ := heq
        exact Or.inr ⟨passed, l, after, rfl, by rwa [List.append_assoc]⟩

/-- A pattern is found in a line exactly if it reads a part of it. -/
theorem isFoundIn_iff :
    a.isFoundIn line = true ↔
      ∃ before l after, line = before ++ l ++ after ∧ a.Reads before l after :=
  isSome_findFrom?_iff rfl

/-! ### Common shapes -/

theorem reads_char : (char c).Reads before l after ↔ l = [c] := by
  simp [char, Reads]

theorem reads_optional : (optional a).Reads before l after ↔ a.Reads before l after ∨ l = [] :=
  Iff.rfl

theorem reads_optional_char : (optional (char c)).Reads before l after ↔ l = [] ∨ l = [c] := by
  rw [reads_optional, reads_char, or_comm]

theorem reads_run1 :
    (run1 p).Reads before l after ↔ l ≠ [] ∧ ∀ c ∈ l, p c = true := by
  constructor
  · rintro ⟨-, l, rfl, ⟨c, hc, rfl⟩, hl⟩
    exact ⟨by simp, List.forall_mem_cons.mpr ⟨hc, hl⟩⟩
  · rintro ⟨hne, h⟩
    cases l with
    | nil => exact (hne rfl).elim
    | cons c l =>
      obtain ⟨hc, hl⟩ := List.forall_mem_cons.mp h
      exact ⟨[c], l, rfl, ⟨c, hc, rfl⟩, hl⟩

theorem reads_sequence_cons {as : List Pattern} :
    (sequence (a :: as)).Reads before l after ↔ ∃ l₁ l₂, l = l₁ ++ l₂ ∧
      a.Reads before l₁ (l₂ ++ after) ∧ (sequence as).Reads (before ++ l₁) l₂ after := by
  cases as with
  | cons b as => exact Iff.rfl
  | nil =>
    constructor
    · intro h
      exact ⟨l, [], (List.append_nil l).symm, h, rfl⟩
    · rintro ⟨l, l', rfl, h, rfl⟩
      rwa [List.append_nil]

/-- A word is read in any mixture of cases. -/
theorem reads_word {w : String} : (word w).Reads before l after ↔ l.map foldLetter = w.toList := by
  rw [word]
  induction w.toList generalizing before l with
  | nil => exact List.map_eq_nil_iff.symm
  | cons c w ih =>
    rw [List.map_cons, reads_sequence_cons]
    constructor
    · rintro ⟨-, l', rfl, ⟨d, hd, rfl⟩, h⟩
      rw [List.singleton_append, List.map_cons, ih.mp h, beq_iff_eq.mp hd]
    · intro h
      cases l with
      | nil => cases h
      | cons d l =>
        rw [List.map_cons, List.cons.injEq] at h
        exact ⟨[d], l, rfl, ⟨d, beq_iff_eq.mpr h.1, rfl⟩, ih.mpr h.2⟩

end QueryAssist.Pattern
