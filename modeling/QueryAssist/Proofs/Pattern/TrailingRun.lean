import Mathlib.Data.List.DropRight
import QueryAssist.Proofs.Pattern.Capture
import QueryAssist.Proofs.Pattern.LineEnd

/-!
# The run that a line ends with

The longest run of characters of a class at the end of a line can be found in two ways. A search for
a run in front of the end of the line finds it, because the leftmost match is the longest one. And a
group in front of the end of the line is read behind what the rest of its pattern reads; if that ends
in a character of another class, no shorter run could stand there.

## Main definitions

* `Pattern.IsTrailingRun` — a text is the longest run of a class that another one ends with

## Main results

* `isTrailingRun_find?` — what a search for a run in front of the end of the line finds
* `exists_findGroup?_eq_some` — what a group in front of the end of the line remembers
* `IsTrailingRun.eq_rtakeWhile` — there is only one such run
-/

namespace QueryAssist.Pattern

variable {a : Pattern} {as bs : List Pattern} {p : Char → Bool} {s t u : Place} {m : Match}
  {l rest v w line front : List Char} {k : Nat}

/-- The text `v` is the longest end of `line` that has characters of a class only. -/
structure IsTrailingRun (p : Char → Bool) (line v : List Char) : Prop where
  /-- The line ends with it. -/
  isSuffix : v <:+ line
  /-- Its characters belong to the class. -/
  forall_mem : ∀ c ∈ v, p c = true
  /-- Every other such end is a part of it. -/
  longest : ∀ w, w <:+ line → (∀ c ∈ w, p c = true) → w <:+ v

/-- Behind a character of another class the longest run begins. -/
theorem isTrailingRun_append (hv : ∀ c ∈ v, p c = true)
    (hfront : ∀ c ∈ front.getLast?, p c = false) : IsTrailingRun p (front ++ v) v where
  isSuffix := List.suffix_append front v
  forall_mem := hv
  longest := by
    intro w hw hall
    rcases List.suffix_or_suffix_of_suffix hw (List.suffix_append front v) with h | ⟨x, rfl⟩
    · exact h
    · -- a longer run would contain the last character before the run
      have hx : x <:+ front := ((List.suffix_append_inj_of_length_eq rfl).mp hw).1
      obtain ⟨y, rfl⟩ := hx
      rcases List.eq_nil_or_concat x with rfl | ⟨x, c, rfl⟩
      · exact List.suffix_refl v
      · have hc : p c = false := hfront c (by simp)
        have hpc : p c = true := hall c (by simp)
        rw [hc] at hpc
        cases hpc

theorem isTrailingRun_rtakeWhile (p : Char → Bool) (line : List Char) :
    IsTrailingRun p line (line.rtakeWhile p) := by
  have hrun : IsTrailingRun p (line.rdropWhile p ++ line.rtakeWhile p) (line.rtakeWhile p) :=
    isTrailingRun_append (fun _ hc => List.mem_rtakeWhile_imp hc)
      fun _ hc => of_mem_getLast?_rdropWhile hc
  rwa [List.rdropWhile_append_rtakeWhile] at hrun

theorem IsTrailingRun.unique (h : IsTrailingRun p line v) (h' : IsTrailingRun p line w) : v = w :=
  (h'.longest v h.isSuffix h.forall_mem).eq_of_length_le
    (h.longest w h'.isSuffix h'.forall_mem).length_le

theorem IsTrailingRun.eq_rtakeWhile (h : IsTrailingRun p line v) : v = line.rtakeWhile p :=
  h.unique (isTrailingRun_rtakeWhile p line)

/-! ### The leftmost match -/

theorem start_of_matchAt? (h : a.matchAt? s = some m) : m.start = s.column := by
  obtain ⟨t, -, rfl⟩ := Option.map_eq_some_iff.mp h
  rfl

/-- A search finds the match that begins at the first place where there is one. -/
theorem exists_skip_of_findFrom? (hafter : s.after = rest) (h : a.findFrom? rest s = some m) :
    ∃ n, a.matchAt? (s.skip n) = some m ∧ ∀ j < n, a.matchAt? (s.skip j) = none := by
  have hnow : ∀ {s : Place}, a.matchAt? s = some m →
      ∃ n, a.matchAt? (s.skip n) = some m ∧ ∀ j < n, a.matchAt? (s.skip j) = none :=
    fun h => ⟨0, h, fun j hj => absurd hj (Nat.not_lt_zero j)⟩
  induction rest generalizing s with
  | nil => exact hnow h
  | cons c rest ih =>
    rw [findFrom?, Option.or_eq_some_iff] at h
    rcases h with h | ⟨hnone, h⟩
    · exact hnow h
    · -- a place further on from the next one is one more further on from here
      obtain ⟨n, hn, hbefore⟩ := ih rfl h
      rw [Place.step_eq_skip hafter, Place.skip_skip, Nat.add_comm] at hn
      refine ⟨n + 1, hn, fun j hj => ?_⟩
      cases j with
      | zero => exact hnone
      | succ j =>
        have hj := hbefore j (Nat.lt_of_succ_lt_succ hj)
        rwa [Place.step_eq_skip hafter, Place.skip_skip, Nat.add_comm] at hj

/-- A run in front of the end of the line can be read where nothing else follows. -/
theorem isSome_matchAt?_run_lineEnd_iff :
    ((seq (run p) lineEnd).matchAt? s).isSome = true ↔ ∀ c ∈ s.after, p c = true := by
  rw [isSome_matchAt?_iff]
  constructor
  · rintro ⟨-, after, hafter, l, -, rfl, hl, rfl, rfl⟩
    rw [hafter, List.append_nil, List.append_nil]
    exact hl
  · intro h
    exact ⟨s.after, [], (List.append_nil _).symm, s.after, [], (List.append_nil _).symm, h, rfl, rfl⟩

/-- A search for a run in front of the end of the line finds the longest one. -/
theorem isTrailingRun_find? (p : Char → Bool) (line : List Char) :
    ∃ m, (seq (run p) lineEnd).find? line = some m ∧ IsTrailingRun p line (line.drop m.start) := by
  -- there is a match, if only the empty one
  have hfound : (seq (run p) lineEnd).isFoundIn line = true :=
    isFoundIn_iff.mpr ⟨line, [], [], by simp, [], [], rfl, List.forall_mem_nil _, rfl, rfl⟩
  obtain ⟨m, hm⟩ := Option.isSome_iff_exists.mp hfound
  obtain ⟨n, hmatch, hleftmost⟩ := exists_skip_of_findFrom? (s := .first line) rfl hm
  have hstart : m.start = n := by
    rw [start_of_matchAt? hmatch, Place.column_skip]
    exact Nat.zero_add n
  refine ⟨m, hm, List.drop_suffix _ _, ?_, fun w hw hall => ?_⟩
  · have hsome := Option.isSome_of_eq_some hmatch
    rw [isSome_matchAt?_run_lineEnd_iff] at hsome
    rwa [hstart]
  · -- a longer run would have been found before
    rw [List.suffix_iff_eq_drop] at hw
    have hsome : ((seq (run p) lineEnd).matchAt?
        ((Place.first line).skip (line.length - w.length))).isSome = true := by
      rw [isSome_matchAt?_run_lineEnd_iff]
      change ∀ c ∈ line.drop (line.length - w.length), p c = true
      rwa [← hw]
    have hle : n ≤ line.length - w.length := by
      by_contra hlt
      rw [hleftmost _ (Nat.lt_of_not_le hlt)] at hsome
      cases hsome
    rw [hw, hstart]
    exact List.drop_suffix_drop_left line hle

/-! ### What a group remembers -/

theorem Place.IsIn.of_moves (hs : s.IsIn line) (h : s.Moves l t) : t.IsIn line where
  append_eq := by
    rw [← hs.append_eq, h.reverse_before, h.after_eq, List.append_assoc]
  column_eq := by
    rw [h.column_eq, hs.column_eq, h.before_eq, List.length_append, List.length_reverse,
      Nat.add_comm]

/-- The columns between two places cover the text between them. -/
theorem Place.IsIn.span_of (hs : s.IsIn line) (h : s.Moves l t) :
    (Span.mk s.column t.column).of line = l := by
  have hlength : s.before.reverse.length = s.column := by
    rw [List.length_reverse, hs.column_eq]
  rw [Span.of, ← hs.append_eq, List.drop_left' hlength, h.after_eq, h.column_eq,
    Nat.add_sub_cancel_left, List.take_left]

theorem mem_places_sequence_cons :
    t ∈ (sequence (a :: as)).places s ↔ ∃ u ∈ a.places s, t ∈ (sequence as).places u := by
  cases as with
  | cons b as => exact List.mem_flatMap
  | nil =>
    constructor
    · intro ht
      exact ⟨t, ht, List.mem_singleton_self t⟩
    · rintro ⟨u, hu, ht⟩
      obtain rfl := List.mem_singleton.mp ht
      exact hu

theorem mem_places_sequence_append :
    t ∈ (sequence (as ++ bs)).places s ↔
      ∃ u ∈ (sequence as).places s, t ∈ (sequence bs).places u := by
  induction as generalizing s with
  | nil =>
    constructor
    · intro ht
      exact ⟨s, List.mem_singleton_self s, ht⟩
    · rintro ⟨u, hu, ht⟩
      obtain rfl := List.mem_singleton.mp hu
      exact ht
  | cons a as ih =>
    rw [List.cons_append]
    simp only [mem_places_sequence_cons, ih]
    constructor
    · rintro ⟨u, hu, u', hu', ht⟩
      exact ⟨u', ⟨u, hu, hu'⟩, ht⟩
    · rintro ⟨u', ⟨u, hu, hu'⟩, ht⟩
      exact ⟨u, hu, u', hu', ht⟩

/-- A group in front of the end of the line leads to the end, with the columns it has read. -/
theorem mem_places_group_lineEnd (h : t ∈ (sequence [.group k a, .lineEnd]).places s) :
    ∃ u ∈ a.places s, u.after = [] ∧
      t = { u with groups := (k, ⟨s.column, u.column⟩) :: u.groups } := by
  obtain ⟨_, hgroup, hend⟩ := List.mem_flatMap.mp h
  obtain ⟨u, hu, rfl⟩ := List.mem_map.mp hgroup
  rw [sequence, places] at hend
  split at hend
  · rename_i hempty
    exact ⟨u, hu, List.isEmpty_iff.mp hempty, List.mem_singleton.mp hend⟩
  · cases hend

/-- A group in front of the end of the line remembers what its pattern reads there, behind what the
other patterns read. -/
theorem exists_findGroup?_eq_some
    (h : (sequence (as.reverse ++ [.group k a, .lineEnd])).isFoundIn line = true) :
    ∃ front v, line = front ++ v ∧ ReadBackwards as front v ∧ a.Reads front v [] ∧
      (sequence (as.reverse ++ [.group k a, .lineEnd])).findGroup? k line = some v := by
  obtain ⟨m, hm⟩ := Option.isSome_iff_exists.mp h
  obtain ⟨s, hs, hmatch⟩ := exists_matchAt?_of_findFrom? (Place.isIn_first line) rfl hm
  -- the match leads to a place `u`, and from there with the group to the end `t`
  obtain ⟨u, hu, hstop⟩ := mem_places_sequence_append.mp (mem_places_of_matchAt? hmatch)
  obtain ⟨t, ht, hend, hstop⟩ := mem_places_group_lineEnd hstop
  obtain ⟨l, hl, hread⟩ := reads_of_mem_places hu
  obtain ⟨v, hv, hreadv⟩ := reads_of_mem_places ht
  have hline : u.IsIn line := Place.IsIn.of_moves (s := { s with groups := [] })
    ⟨hs.append_eq, hs.column_eq⟩ hl
  have hafter : u.after = v := by rw [hv.after_eq, hend, List.append_nil]
  refine ⟨u.before.reverse, v, ?_, ?_, hend ▸ hreadv, ?_⟩
  · rw [← hafter, hline.append_eq]
  · rw [readBackwards_iff, ← hafter]
    exact ⟨_, l, hl.reverse_before, hread⟩
  · rw [findGroup?, hm, Option.bind_some, Match.group?, hstop, List.lookup_cons_self,
      Option.map_some, hline.span_of hv]

end QueryAssist.Pattern
