/-!
# Drawing samples

A sampler draws different positions of a list. What it draws depends on a state that changes with
every draw.

## Main definitions

* `Hover.Sampler` — samplers, with the laws they obey
* `Hover.Sampler.congruential` — a sampler whose state is a natural number
-/

namespace QueryAssist.Hover

/-- A way to draw positions of a list at random. -/
structure Sampler (σ : Type) where
  /-- Draws `count` positions of a list of `size` elements. -/
  draw : (size count : Nat) → σ → List Nat × σ
  /-- As many positions are drawn as are asked for. -/
  length_draw : ∀ {size count : Nat} (s : σ), count ≤ size → (draw size count s).1.length = count
  /-- No position is drawn twice. -/
  nodup_draw : ∀ {size count : Nat} (s : σ), (draw size count s).1.Nodup
  /-- Every position is one of the list. -/
  lt_of_mem_draw : ∀ {size count i : Nat} (s : σ), i ∈ (draw size count s).1 → i < size

namespace Sampler

/-- The state after `s`, by a linear congruence modulo `2 ^ 64`. -/
def nextState (s : Nat) : Nat :=
  (s * 6364136223846793005 + 1442695040888963407) % 18446744073709551616

/-- The position below `size` that a state points at, by its upper half. -/
def pointedAt (s size : Nat) : Nat := s / 4294967296 % size

/-- Draws `count` elements from `left`, each time the one that the next state points at. -/
def drawFrom : (count : Nat) → (left : List Nat) → (s : Nat) → List Nat × Nat
  | 0, _, s => ([], s)
  | count + 1, left, s =>
    match left[pointedAt (nextState s) left.length]? with
    | none => ([], nextState s)
    | some x =>
      let (drawn, s) := drawFrom count (left.erase x) (nextState s)
      (x :: drawn, s)

theorem getElem?_pointedAt_eq_none {s : Nat} {left : List Nat}
    (h : left[pointedAt s left.length]? = none) : left = [] := by
  cases left with
  | nil => rfl
  | cons a l =>
    have : pointedAt s (a :: l).length < (a :: l).length := Nat.mod_lt _ (by simp)
    rw [List.getElem?_eq_none_iff] at h
    omega

theorem mem_of_mem_drawFrom {count i : Nat} {left : List Nat} {s : Nat}
    (h : i ∈ (drawFrom count left s).1) : i ∈ left := by
  induction count generalizing left s with
  | zero => simp [drawFrom] at h
  | succ count ih =>
    unfold drawFrom at h
    split at h
    · simp at h
    · rename_i x hx
      rcases List.mem_cons.1 h with rfl | h
      · exact List.mem_of_getElem? hx
      · exact List.mem_of_mem_erase (ih h)

theorem nodup_drawFrom {count : Nat} {left : List Nat} {s : Nat} (h : left.Nodup) :
    (drawFrom count left s).1.Nodup := by
  induction count generalizing left s with
  | zero => simp [drawFrom]
  | succ count ih =>
    unfold drawFrom
    split
    · simp
    · refine List.nodup_cons.2 ⟨fun hx => ?_, ih (h.erase _)⟩
      exact h.not_mem_erase (mem_of_mem_drawFrom hx)

theorem length_drawFrom {count : Nat} {left : List Nat} {s : Nat} (h : count ≤ left.length) :
    (drawFrom count left s).1.length = count := by
  induction count generalizing left s with
  | zero => simp [drawFrom]
  | succ count ih =>
    unfold drawFrom
    split
    · rename_i hnone
      simp [getElem?_pointedAt_eq_none hnone] at h
    · rename_i x hx
      have := List.length_erase_of_mem (List.mem_of_getElem? hx)
      simp only [List.length_cons]
      rw [ih (by omega)]

/-- The sampler whose states follow a linear congruence. -/
def congruential : Sampler Nat where
  draw size count s := drawFrom count (List.range size) s
  length_draw s h := length_drawFrom (by simpa using h)
  nodup_draw s := nodup_drawFrom List.nodup_range
  lt_of_mem_draw s h := by simpa using mem_of_mem_drawFrom h

end Sampler

end QueryAssist.Hover
