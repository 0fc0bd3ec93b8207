import Mathlib.Order.Bounds.Basic
import Mathlib.Order.MinMax
import QueryAssist.Spelling.Distance

/-!
# The edit distance is the least number of edits

An edit inserts, deletes or replaces one element of a list. The distance that is computed row by
row is the number of edits that lead from one list to the other and cannot be made fewer.

## Main definitions

* `Spelling.Edit` — one list comes from another one by a single edit
* `Spelling.Edits` — one list comes from another one by a number of edits
* `Spelling.cost` — the distance by recursion on both lists
* `Spelling.costs` — the distances of a list to all beginnings of another one

## Main results

* `edits_cost`, `Edits.cost_le` — so many edits are enough, and fewer are not
* `rowDistance_eq_cost` — the rows are the distances of beginnings
* `isLeast_textDistance` — the distance of two texts is the least number of edits
-/

namespace QueryAssist.Spelling

variable {α : Type} {a b : α} {as bs cs done : List α} {m n : Nat}

/-! ### Edits -/

/-- The second list is the first one with one element inserted, deleted or replaced. -/
inductive Edit : List α → List α → Prop
  | insert (l : List α) (a : α) (r : List α) : Edit (l ++ r) (l ++ a :: r)
  | delete (l : List α) (a : α) (r : List α) : Edit (l ++ a :: r) (l ++ r)
  | replace (l : List α) (a b : α) (r : List α) : Edit (l ++ a :: r) (l ++ b :: r)

/-- The second list comes from the first one by `n` edits, one after the other. -/
inductive Edits : Nat → List α → List α → Prop
  | refl (as : List α) : Edits 0 as as
  | step {as bs cs : List α} {n : Nat} (h : Edit as bs) (hrest : Edits n bs cs) :
      Edits (n + 1) as cs

theorem Edit.symm (h : Edit as bs) : Edit bs as := by
  cases h with
  | insert l a r => exact .delete l a r
  | delete l a r => exact .insert l a r
  | replace l a b r => exact .replace l b a r

theorem Edit.cons (a : α) (h : Edit as bs) : Edit (a :: as) (a :: bs) := by
  cases h with
  | insert l c r => exact .insert (a :: l) c r
  | delete l c r => exact .delete (a :: l) c r
  | replace l c d r => exact .replace (a :: l) c d r

theorem Edit.reverse (h : Edit as bs) : Edit as.reverse bs.reverse := by
  cases h with
  | insert l a r => simpa using Edit.insert r.reverse a l.reverse
  | delete l a r => simpa using Edit.delete r.reverse a l.reverse
  | replace l a b r => simpa using Edit.replace r.reverse a b l.reverse

theorem Edits.trans (h : Edits m as bs) (h' : Edits n bs cs) : Edits (n + m) as cs := by
  induction h with
  | refl as => exact h'
  | step hedit _ ih => exact .step hedit (ih h')

theorem Edits.snoc (h : Edits n as bs) (hlast : Edit bs cs) : Edits (n + 1) as cs := by
  rw [Nat.add_comm]
  exact h.trans (.step hlast (.refl cs))

theorem Edits.symm (h : Edits n as bs) : Edits n bs as := by
  induction h with
  | refl as => exact .refl as
  | step hedit _ ih => exact ih.snoc hedit.symm

/-- What turns edits into edits turns any number of them into as many. -/
theorem Edits.map {f : List α → List α} (hf : ∀ {as bs}, Edit as bs → Edit (f as) (f bs))
    (h : Edits n as bs) : Edits n (f as) (f bs) := by
  induction h with
  | refl as => exact .refl (f as)
  | step hedit _ ih => exact .step (hf hedit) ih

theorem Edits.min (h : Edits m as bs) (h' : Edits n as bs) : Edits (min m n) as bs := by
  rcases min_choice m n with hmin | hmin
  · rwa [hmin]
  · rwa [hmin]

theorem edits_nil_left (bs : List α) : Edits bs.length [] bs := by
  induction bs with
  | nil => exact .refl []
  | cons b bs ih => exact ih.snoc (.insert [] b bs)

/-! ### The distance by recursion -/

variable [DecidableEq α]

/-- The edit distance, by what is done with the first elements of the lists. -/
def cost : List α → List α → Nat
  | [], bs => bs.length
  | a :: as, [] => as.length + 1
  | a :: as, b :: bs =>
    min (min (cost as (b :: bs) + 1) (cost (a :: as) bs + 1)) (cost as bs + if a = b then 0 else 1)
termination_by as bs => as.length + bs.length

@[simp] theorem cost_nil_left (bs : List α) : cost [] bs = bs.length := by rw [cost]

@[simp] theorem cost_nil_right (as : List α) : cost as [] = as.length := by
  cases as with
  | nil => rw [cost_nil_left]
  | cons a as => rw [cost, List.length_cons]

theorem cost_cons_cons (a b : α) (as bs : List α) :
    cost (a :: as) (b :: bs) =
      min (min (cost as (b :: bs) + 1) (cost (a :: as) bs + 1))
        (cost as bs + if a = b then 0 else 1) := by rw [cost]

theorem cost_self (as : List α) : cost as as = 0 := by
  induction as with
  | nil => exact cost_nil_left []
  | cons a as ih => simp [cost_cons_cons, ih]

/-- Edits of the number that the recursion yields. -/
theorem edits_cost (as bs : List α) : Edits (cost as bs) as bs := by
  induction as, bs using cost.induct with
  | case1 bs =>
    rw [cost_nil_left]
    exact edits_nil_left bs
  | case2 a as =>
    rw [cost_nil_right]
    exact (edits_nil_left (a :: as)).symm
  | case3 a as b bs ihdelete ihinsert ihboth =>
    have hdelete : Edits (cost as (b :: bs) + 1) (a :: as) (b :: bs) :=
      .step (.delete [] a as) ihdelete
    have hinsert : Edits (cost (a :: as) bs + 1) (a :: as) (b :: bs) :=
      ihinsert.snoc (.insert [] b bs)
    have hboth : Edits (cost as bs + if a = b then 0 else 1) (a :: as) (b :: bs) := by
      have hrest : Edits (cost as bs) (b :: as) (b :: bs) := ihboth.map (Edit.cons b)
      split
      · rename_i hab
        rw [hab]
        exact hrest
      · exact .step (.replace [] a b as) hrest
    rw [cost_cons_cons]
    exact (hdelete.min hinsert).min hboth

/-! ### One edit changes the distance by one at most -/

theorem cost_cons_le (a : α) (as cs : List α) : cost (a :: as) cs ≤ cost as cs + 1 := by
  cases cs with
  | nil => simp
  | cons c cs =>
    rw [cost_cons_cons]
    omega

theorem cost_cons_right_le (as : List α) (c : α) (cs : List α) :
    cost as (c :: cs) ≤ cost as cs + 1 := by
  cases as with
  | nil => simp
  | cons a as =>
    rw [cost_cons_cons]
    omega

theorem cost_le_cons (a : α) (as cs : List α) : cost as cs ≤ cost (a :: as) cs + 1 := by
  induction cs with
  | nil =>
    rw [cost_nil_right, cost_nil_right, List.length_cons]
    omega
  | cons c cs ih =>
    have hright := cost_cons_right_le as c cs
    rw [cost_cons_cons]
    omega

theorem cost_cons_le_cons (a b : α) (as cs : List α) :
    cost (a :: as) cs ≤ cost (b :: as) cs + 1 := by
  induction cs with
  | nil => simp
  | cons c cs ih =>
    have hdelete := cost_cons_le a as (c :: cs)
    rw [cost_cons_cons b]
    rw [cost_cons_cons a] at hdelete ⊢
    split <;> split <;> omega

/-- If an edit changes all distances by one at most, so does the same edit one element further
on. -/
theorem cost_cons_le_of_forall (h : ∀ cs, cost as cs ≤ cost bs cs + 1) (a : α) (cs : List α) :
    cost (a :: as) cs ≤ cost (a :: bs) cs + 1 := by
  induction cs with
  | nil => simpa using h []
  | cons c cs ih =>
    have hdelete := h (c :: cs)
    have hboth := h cs
    rw [cost_cons_cons, cost_cons_cons]
    omega

theorem cost_append_le_of_forall (h : ∀ cs, cost as cs ≤ cost bs cs + 1) (l cs : List α) :
    cost (l ++ as) cs ≤ cost (l ++ bs) cs + 1 := by
  induction l generalizing cs with
  | nil => exact h cs
  | cons a l ih => exact cost_cons_le_of_forall ih a cs

theorem Edit.cost_le (h : Edit as bs) (cs : List α) : cost as cs ≤ cost bs cs + 1 := by
  cases h with
  | insert l a r => exact cost_append_le_of_forall (cost_le_cons a r) l cs
  | delete l a r => exact cost_append_le_of_forall (cost_cons_le a r) l cs
  | replace l a b r => exact cost_append_le_of_forall (cost_cons_le_cons a b r) l cs

/-- There are no edits fewer than the recursion yields. -/
theorem Edits.cost_le (h : Edits n as bs) : cost as bs ≤ n := by
  induction h with
  | refl as => exact (cost_self as).le
  | step hedit _ ih => exact (hedit.cost_le _).trans (Nat.add_le_add_right ih 1)

/-! ### Rows -/

/-- The distances of `as` to the beginnings of `bs`, shortest first, each of them with `done`
before it. Lists are read backwards: `as` and `done` begin with their last elements. -/
def costs (as done : List α) : (bs : List α) → List Nat
  | [] => [cost as done]
  | b :: bs => cost as done :: costs as (b :: done) bs

theorem costs_eq_cons (as done bs : List α) :
    costs as done bs = cost as done :: (costs as done bs).tail := by
  cases bs <;> rfl

/-- The distances of the empty list are the lengths. -/
theorem costs_nil (done bs : List α) :
    costs [] done bs = List.range' done.length (bs.length + 1) := by
  induction bs generalizing done with
  | nil => simp [costs]
  | cons b bs ih =>
    rw [costs, ih, cost_nil_left]
    exact List.range'_succ.symm

theorem extendRow_costs (a : α) (as done bs : List α) :
    extendRow a (cost (a :: as) done) bs (costs as done bs) = (costs (a :: as) done bs).tail := by
  induction bs generalizing done with
  | nil => rfl
  | cons b bs ih =>
    have ih := ih (b :: done)
    rw [costs_eq_cons as (b :: done) bs] at ih
    rw [costs, costs_eq_cons as (b :: done) bs, extendRow]
    simp only [← cost_cons_cons a b as done]
    rw [ih, costs, List.tail_cons, ← costs_eq_cons]

theorem nextRow_costs (a : α) (as bs : List α) :
    nextRow bs (costs as [] bs) a = costs (a :: as) [] bs := by
  have hleft : (costs as [] bs).headD 0 + 1 = cost (a :: as) [] := by
    rw [costs_eq_cons, List.headD_cons, cost_nil_right, cost_nil_right, List.length_cons]
  rw [nextRow, hleft, extendRow_costs, ← costs_eq_cons]

/-- After every element of a list comes the row of the list that has been read. -/
theorem foldl_nextRow_costs (as bs read : List α) :
    as.foldl (nextRow bs) (costs read [] bs) = costs (as.reverse ++ read) [] bs := by
  induction as generalizing read with
  | nil => rfl
  | cons a as ih => rw [List.foldl_cons, nextRow_costs, ih, List.reverse_cons, List.append_assoc,
      List.singleton_append]

theorem getLastD_costs (as done bs : List α) :
    (costs as done bs).getLastD 0 = cost as (bs.reverse ++ done) := by
  induction bs generalizing done with
  | nil => rfl
  | cons b bs ih =>
    -- the row goes on, so its last distance is that of what goes on
    have hlast : (costs as done (b :: bs)).getLastD 0 = (costs as (b :: done) bs).getLastD 0 := by
      rw [costs, costs_eq_cons as (b :: done) bs, List.getLastD_cons, List.getLastD_cons,
        List.getLastD_cons]
    rw [hlast, ih, List.reverse_cons, List.append_assoc, List.singleton_append]

theorem rowDistance_eq_cost (as bs : List α) :
    rowDistance as bs = cost as.reverse bs.reverse := by
  have hfirst : List.range (bs.length + 1) = costs [] [] bs := by
    rw [costs_nil, List.length_nil, List.range_eq_range']
  rw [rowDistance, hfirst, foldl_nextRow_costs, getLastD_costs, List.append_nil, List.append_nil]

/-! ### The least number of edits -/

theorem isLeast_rowDistance (as bs : List α) :
    IsLeast {n | Edits n as bs} (rowDistance as bs) := by
  rw [rowDistance_eq_cost]
  constructor
  · have hedits := (edits_cost as.reverse bs.reverse).map Edit.reverse
    rwa [List.reverse_reverse, List.reverse_reverse] at hedits
  · intro n hn
    exact (hn.map Edit.reverse).cost_le

/-- The distance does not depend on which list the rows run along. -/
theorem isLeast_distance (as bs : List α) : IsLeast {n | Edits n as bs} (distance as bs) := by
  rw [distance]
  split
  · have hsymm : {n | Edits n as bs} = {n | Edits n bs as} :=
      Set.ext fun n => ⟨Edits.symm, Edits.symm⟩
    rw [hsymm]
    exact isLeast_rowDistance bs as
  · exact isLeast_rowDistance as bs

/-- The distance of two texts is the least number of insertions, deletions and replacements of
single characters that lead from one to the other: there are so many that do, and no fewer. -/
theorem isLeast_textDistance (s t : String) :
    IsLeast {n | Edits n s.toList t.toList} (textDistance s t) :=
  isLeast_distance s.toList t.toList

end QueryAssist.Spelling
