import Mathlib.Data.List.Basic
import QueryAssist.Pattern.Search

/-!
# Matching runs and searching a line

A run of characters can end at every place up to the longest one. Where only the longest run can be
followed by the rest of a pattern, the run is as long as possible and nothing else is tried.

## Main definitions

* `Pattern.runLength` — how many characters of a class a text begins with
* `Pattern.Place.skip` — the place some characters further on
* `Pattern.namedRun` — a character of one class and a run of another one, as a group

## Main results

* `places_run` — the places that a run can end at
* `flatMap_places_run` — a run that nothing shorter than the longest can stand in for
* `findFrom?_eq_matchAt?` — a pattern that only fits at the beginning of a line
-/

namespace QueryAssist.Pattern

variable {p : Char → Bool} {c : Char} {rest : List Char} {s : Place} {a : Pattern}

/-- The number of characters of a class that a text begins with. -/
def runLength (p : Char → Bool) (l : List Char) : Nat := (l.takeWhile p).length

theorem runLength_cons_of_pos (h : p c = true) :
    runLength p (c :: rest) = runLength p rest + 1 := by
  rw [runLength, List.takeWhile_cons_of_pos h, List.length_cons, runLength]

theorem runLength_cons_of_neg (h : p c = false) : runLength p (c :: rest) = 0 := by
  rw [runLength, List.takeWhile_cons_of_neg (Bool.eq_false_iff.mp h), List.length_nil]

theorem drop_runLength (p : Char → Bool) (l : List Char) :
    l.drop (runLength p l) = l.dropWhile p := by
  induction l with
  | nil => rfl
  | cons c l ih =>
    cases h : p c with
    | true => rw [runLength_cons_of_pos h, List.drop_succ_cons, ih, List.dropWhile_cons_of_pos h]
    | false =>
      rw [runLength_cons_of_neg h, List.drop_zero,
        List.dropWhile_cons_of_neg (Bool.eq_false_iff.mp h)]

/-- Before the end of a run the next character belongs to the class. -/
theorem exists_drop_eq_cons_of_lt_runLength {k : Nat} {l : List Char} (h : k < runLength p l) :
    ∃ c rest, l.drop k = c :: rest ∧ p c = true := by
  induction l generalizing k with
  | nil => cases h
  | cons c l ih =>
    cases hc : p c with
    | false =>
      rw [runLength_cons_of_neg hc] at h
      cases h
    | true =>
      rw [runLength_cons_of_pos hc] at h
      cases k with
      | zero => exact ⟨c, l, rfl, hc⟩
      | succ k => exact ih (Nat.lt_of_succ_lt_succ h)

/-! ### Places further on -/

/-- The place `n` characters further on. -/
def Place.skip (s : Place) (n : Nat) : Place :=
  { s with
    before := (s.after.take n).reverse ++ s.before
    after := s.after.drop n
    column := s.column + n }

@[simp] theorem Place.column_skip (s : Place) (n : Nat) : (s.skip n).column = s.column + n := rfl

@[simp] theorem Place.after_skip (s : Place) (n : Nat) : (s.skip n).after = s.after.drop n := rfl

@[simp] theorem Place.skip_zero (s : Place) : s.skip 0 = s := rfl

theorem Place.step_eq_skip (h : s.after = c :: rest) : s.step c rest = s.skip 1 := by
  simp [Place.step, Place.skip, h]

theorem Place.skip_skip (s : Place) (m n : Nat) : (s.skip m).skip n = s.skip (m + n) := by
  simp [Place.skip, List.take_add, List.drop_drop, Nat.add_assoc]

/-! ### Runs -/

theorem runPlaces_eq (h : s.after = rest) (shorter : List Place) :
    runPlaces p rest s shorter =
      (List.range (runLength p rest + 1)).reverse.map s.skip ++ shorter := by
  induction rest generalizing s shorter with
  | nil => rfl
  | cons c rest ih =>
    rw [runPlaces]
    split
    · rename_i hc
      -- the runs of the rest are the longer ones, each one character further on
      have hstep := Place.step_eq_skip h
      have hafter : (s.step c rest).after = rest := rfl
      have hskip : (s.skip 1).skip = fun k => s.skip (k + 1) := by
        funext k
        rw [Place.skip_skip, Nat.add_comm]
      rw [ih hafter, hstep, runLength_cons_of_pos hc, List.range_succ_eq_map (n := _ + 1)]
      simp only [hskip, List.reverse_cons, List.map_append, List.map_reverse, List.map_map,
        Function.comp_def, List.map_cons, List.map_nil, Place.skip_zero, List.append_assoc,
        List.singleton_append, Nat.succ_eq_add_one]
    · rename_i hc
      rw [runLength_cons_of_neg (Bool.not_eq_true _ ▸ hc)]
      rfl

/-- A run ends behind each of the characters it can take, the longest run first. -/
theorem places_run (p : Char → Bool) (s : Place) :
    (run p).places s = (List.range (runLength p s.after + 1)).reverse.map s.skip := by
  rw [places, runPlaces_eq rfl, List.append_nil]

/-- If what is to follow fits behind no shorter run, it has to fit behind the longest. -/
theorem flatMap_reverse_range {α : Type*} {f : Nat → List α} {n : Nat} (h : ∀ k < n, f k = []) :
    (List.range (n + 1)).reverse.flatMap f = f n := by
  have hshorter : (List.range n).reverse.flatMap f = [] := by
    simpa [List.flatMap_eq_nil_iff] using h
  rw [List.range_succ, List.reverse_append, List.reverse_singleton, List.singleton_append,
    List.flatMap_cons, hshorter, List.append_nil]

theorem flatMap_places_run {next : Place → List Place}
    (h : ∀ k < runLength p s.after, next (s.skip k) = []) :
    ((run p).places s).flatMap next = next (s.skip (runLength p s.after)) := by
  rw [places_run, List.flatMap_map]
  exact flatMap_reverse_range h

/-! ### Runs that are remembered -/

/-- One character of a class and a run of another one, remembered under a number. -/
def namedRun (k : Nat) (p q : Char → Bool) : Pattern := .group k (.seq (.one p) (.run q))

/-- The place behind the first character of a remembered run and `n` more. -/
def Place.afterNamedRun (s : Place) (k n : Nat) : Place :=
  { s.skip (n + 1) with groups := (k, ⟨s.column, s.column + (n + 1)⟩) :: s.groups }

theorem places_namedRun {k : Nat} {q : Char → Bool} (h : s.after = c :: rest) (hc : p c = true) :
    (namedRun k p q).places s =
      (List.range (runLength q rest + 1)).reverse.map (s.afterNamedRun k) := by
  have hskip : (s.skip 1).skip = fun n => s.skip (n + 1) := by
    funext n
    rw [Place.skip_skip, Nat.add_comm]
  have hone : (one p).places s = [s.skip 1] := by
    simp only [places, h, hc, if_true, Place.step_eq_skip h]
  have hrun := places_run q (s.skip 1)
  rw [hskip, Place.after_skip, h, List.drop_one, List.tail_cons] at hrun
  rw [namedRun, places, places, hone, List.flatMap_singleton, hrun, List.map_map]
  rfl

theorem places_namedRun_eq_nil {k : Nat} {q : Char → Bool} (h : s.after.head?.all fun c => !p c) :
    (namedRun k p q).places s = [] := by
  cases hafter : s.after with
  | nil => simp [namedRun, places, hafter]
  | cons c rest =>
    have hc : p c = false := by simpa [hafter] using h
    simp [namedRun, places, hafter, hc]

/-! ### Searches -/

/-- The groups of a match are those captured on the way to the preferred place. -/
theorem group?_matchAt? {k : Nat} (h : s.groups = []) :
    (a.matchAt? s).bind (·.group? k) = ((a.places s).head?.map (·.groups)).bind (·.lookup k) := by
  have hs : { s with groups := [] } = s := by rw [← h]
  rw [matchAt?, hs]
  cases (a.places s).head? <;> rfl

/-- A pattern that fits only at the beginning of a line is not looked for elsewhere. -/
theorem findFrom?_eq_matchAt? (h : ∀ s : Place, s.before ≠ [] → a.matchAt? s = none)
    (rest : List Char) (s : Place) : a.findFrom? rest s = a.matchAt? s := by
  induction rest generalizing s with
  | nil => rfl
  | cons c rest ih =>
    rw [findFrom?, ih, h (s.step c rest) (List.cons_ne_nil _ _), Option.or_none]

theorem findFrom?_of_matchAt?_eq_some {m : Match} (h : a.matchAt? s = some m) :
    a.findFrom? rest s = some m := by
  cases rest with
  | nil => exact h
  | cons c rest => rw [findFrom?, h, Option.some_or]

theorem findFrom?_cons_of_matchAt?_eq_none (h : a.matchAt? s = none) :
    a.findFrom? (c :: rest) s = a.findFrom? rest (s.step c rest) := by
  rw [findFrom?, h, Option.none_or]

end QueryAssist.Pattern
