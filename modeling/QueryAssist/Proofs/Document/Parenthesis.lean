import Mathlib.Algebra.Order.Group.Int
import Mathlib.Data.List.Infix
import QueryAssist.Document.TableScope

/-!
# Open and closed parentheses

A parenthesis is open at the end of a text if no later one closes it, so that every beginning of
the text from the parenthesis on opens more parentheses than it closes. The net depth of that text
does not tell as much: it also counts the parentheses behind the one that closes the first.

## Main definitions

* `TableScope.IsOpen` — the parenthesis that a text begins with is open at its end
* `TableScope.IsBalanced` — a text in which every parenthesis has its partner
* `TableScope.StaysOpenBehind` — behind the closed parenthesis that a text begins with, more
  parentheses are opened than closed

## Main results

* `exists_balanced_of_not_isOpen` — a parenthesis that is not open has one that closes it
* `netDepth_pos_iff` — the net depth is positive exactly if the parenthesis is open or more are
  opened than closed behind the one that closes it
-/

namespace QueryAssist.TableScope

variable {s rest : List Char}

/-! ### Net depth -/

theorem netDepth_eq_count (s : List Char) :
    netDepth s = (s.count '(' : Int) - (s.count ')' : Int) := by
  have hfold : ∀ d : Int, s.foldl
      (fun d c => if c = '(' then d + 1 else if c = ')' then d - 1 else d) d =
        d + ((s.count '(' : Int) - (s.count ')' : Int)) := by
    induction s with
    | nil => simp
    | cons c s ih =>
      intro d
      rw [List.foldl_cons, ih, List.count_cons, List.count_cons]
      by_cases hopen : c = '('
      · simp [hopen]
        omega
      · by_cases hclose : c = ')' <;> simp [hopen, hclose]
        omega
  rw [netDepth, hfold, zero_add]

@[simp] theorem netDepth_nil : netDepth [] = 0 := rfl

theorem netDepth_append (s t : List Char) : netDepth (s ++ t) = netDepth s + netDepth t := by
  simp only [netDepth_eq_count, List.count_append]
  omega

theorem netDepth_cons (c : Char) (s : List Char) : netDepth (c :: s) = netDepth [c] + netDepth s :=
  netDepth_append [c] s

theorem netDepth_singleton (c : Char) :
    netDepth [c] = if c = '(' then 1 else if c = ')' then -1 else 0 := by
  simp [netDepth]

theorem netDepth_eq_zero (hopen : '(' ∉ s) (hclose : ')' ∉ s) : netDepth s = 0 := by
  rw [netDepth_eq_count, List.count_eq_zero.mpr hopen, List.count_eq_zero.mpr hclose]
  rfl

/-! ### Partners -/

/-- The parenthesis that a text begins with is open at its end: every nonempty beginning of the
text opens more parentheses than it closes. -/
def IsOpen (rest : List Char) : Prop :=
  ∀ s, s <+: rest → s ≠ [] → s.count ')' < s.count '('

instance : DecidablePred IsOpen := fun rest =>
  decidable_of_iff (∀ s ∈ rest.inits, s ≠ [] → s.count ')' < s.count '(') (by simp [IsOpen])

/-- Every parenthesis of a text has its partner in it: as many are opened as are closed, and no
beginning closes more than it opens. -/
structure IsBalanced (inner : List Char) : Prop where
  /-- As many parentheses are opened as are closed. -/
  netDepth_eq : netDepth inner = 0
  /-- No beginning closes more parentheses than it opens. -/
  netDepth_nonneg : ∀ s, s <+: inner → 0 ≤ netDepth s

/-- The parenthesis that a text begins with is closed in it, and behind the one that closes it more
parentheses are opened than closed. -/
def StaysOpenBehind (rest : List Char) : Prop :=
  ∃ inner later, rest = '(' :: inner ++ ')' :: later ∧ IsBalanced inner ∧ 0 < netDepth later

theorem IsOpen.netDepth_pos (h : IsOpen rest) (hs : s <+: rest) (hne : s ≠ []) :
    0 < netDepth s := by
  have := h s hs hne
  rw [netDepth_eq_count]
  omega

/-- If a beginning of a text closes more than `depth` parentheses and those it opens, then some
parenthesis is the first to do so. -/
theorem exists_first_closing {depth : Int} (hdepth : 0 ≤ depth) (hs : s <+: rest)
    (hbelow : depth + netDepth s < 0) :
    ∃ inner later, rest = inner ++ ')' :: later ∧ depth + netDepth inner = 0 ∧
      ∀ t, t <+: inner → 0 ≤ depth + netDepth t := by
  induction rest generalizing s depth with
  | nil =>
    rw [List.prefix_nil.mp hs, netDepth_nil] at hbelow
    omega
  | cons c rest ih =>
    obtain rfl | ⟨s, rfl, hs'⟩ := List.prefix_cons_iff.mp hs
    · rw [netDepth_nil] at hbelow
      omega
    rw [netDepth_cons, ← add_assoc] at hbelow
    have hc := netDepth_singleton c
    by_cases hnow : depth + netDepth [c] < 0
    · -- only a closing parenthesis goes down, and by one
      obtain ⟨rfl, rfl⟩ : c = ')' ∧ depth = 0 := by
        split at hc
        · omega
        · split at hc
          · exact ⟨by assumption, by omega⟩
          · omega
      refine ⟨[], rest, rfl, by simp, fun t ht => ?_⟩
      rw [List.prefix_nil.mp ht, netDepth_nil]
      omega
    · obtain ⟨inner, later, rfl, hinner, hnonneg⟩ := ih (not_lt.mp hnow) hs' hbelow
      refine ⟨c :: inner, later, rfl, ?_, fun t ht => ?_⟩
      · rw [netDepth_cons, ← add_assoc, hinner]
      · obtain rfl | ⟨t, rfl, ht'⟩ := List.prefix_cons_iff.mp ht
        · rwa [netDepth_nil, add_zero]
        · rw [netDepth_cons, ← add_assoc]
          exact hnonneg t ht'

/-- A parenthesis that is not open has one that closes it. -/
theorem exists_balanced_of_not_isOpen (h : ¬ IsOpen ('(' :: rest)) :
    ∃ inner later, rest = inner ++ ')' :: later ∧ IsBalanced inner := by
  simp only [IsOpen, not_forall, not_lt] at h
  obtain ⟨s, hs, hne, hcount⟩ := h
  obtain rfl | ⟨s, rfl, hs'⟩ := List.prefix_cons_iff.mp hs
  · exact (hne rfl).elim
  have hbelow : netDepth ('(' :: s) ≤ 0 := by
    rw [netDepth_eq_count]
    omega
  rw [netDepth_cons, netDepth_singleton, if_pos rfl] at hbelow
  obtain ⟨inner, later, hrest, hinner, hnonneg⟩ :=
    exists_first_closing le_rfl hs' (by omega)
  exact ⟨inner, later, hrest, ⟨by omega, fun t ht => by have := hnonneg t ht; omega⟩⟩

/-- A parenthesis is closed with more opened than closed behind the one that closes it exactly if it
is not open, but more are opened than closed from it on. -/
theorem staysOpenBehind_iff :
    StaysOpenBehind ('(' :: rest) ↔ ¬ IsOpen ('(' :: rest) ∧ 0 < netDepth ('(' :: rest) := by
  have hpair : ∀ {inner}, IsBalanced inner → netDepth ('(' :: inner ++ [')']) = 0 :=
    fun {inner} hinner => by
      rw [netDepth_append, netDepth_cons, hinner.netDepth_eq]
      rfl
  have hclosed : ∀ {inner} later, IsBalanced inner →
      netDepth ('(' :: inner ++ ')' :: later) = netDepth later := fun {inner} later hinner => by
    rw [List.append_cons, netDepth_append, hpair hinner, zero_add]
  constructor
  · rintro ⟨inner, later, hrest, hinner, hpos⟩
    rw [hrest]
    refine ⟨fun hopen => ?_, by rwa [hclosed later hinner]⟩
    -- up to the parenthesis that closes the first, as many are closed as are opened
    have hpos' := hopen.netDepth_pos (s := '(' :: inner ++ [')']) ⟨later, by simp⟩ (by simp)
    exact (hpair hinner ▸ hpos').false
  · rintro ⟨hopen, hpos⟩
    obtain ⟨inner, later, rfl, hinner⟩ := exists_balanced_of_not_isOpen hopen
    exact ⟨inner, later, rfl, hinner, hclosed later hinner ▸ hpos⟩

instance : DecidablePred StaysOpenBehind := fun rest =>
  decidable_of_iff (rest.head? = some '(' ∧ ¬ IsOpen rest ∧ 0 < netDepth rest) <| by
    cases rest with
    | nil => simp [StaysOpenBehind]
    | cons c rest =>
      by_cases hc : c = '('
      · rw [hc, staysOpenBehind_iff]
        simp
      · simp [StaysOpenBehind, hc]

/-- More parentheses are opened than closed from a parenthesis on exactly if it is open, or if this
holds behind the parenthesis that closes it. -/
theorem netDepth_pos_iff :
    0 < netDepth ('(' :: rest) ↔ IsOpen ('(' :: rest) ∨ StaysOpenBehind ('(' :: rest) := by
  rw [staysOpenBehind_iff]
  constructor
  · intro hpos
    exact or_iff_not_imp_left.mpr fun hopen => ⟨hopen, hpos⟩
  · rintro (hopen | ⟨-, hpos⟩)
    · exact hopen.netDepth_pos List.prefix_rfl (List.cons_ne_nil _ _)
    · exact hpos

end QueryAssist.TableScope
