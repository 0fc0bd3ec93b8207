import Mathlib.Data.List.Nodup
import QueryAssist.SortedMap

/-!
# Maps written entry by entry

If no key comes twice, the order in which entries are written into a map does not matter, and a map
is what its entries are written into.

## Main results

* `perm_foldl_insertEntry` — writing entries with new keys loses nothing
* `SortedMap.perm_entries_ofList`, `SortedMap.ofList_eq_of_perm` — a map is given by its entries in
  any order
-/

namespace QueryAssist

variable {α : Type} {key : String} {l l' : List (String × α)}

/-! ### Entries -/

/-- An entry with a new key is put between the others. -/
theorem perm_insertEntry (value : α) (h : ∀ e ∈ l, e.1 ≠ key) :
    (insertEntry key value l).Perm ((key, value) :: l) := by
  induction l with
  | nil => exact List.Perm.refl _
  | cons e l ih =>
    obtain ⟨he, hl⟩ := List.forall_mem_cons.mp h
    rw [insertEntry]
    split
    · exact List.Perm.refl _
    · rw [if_neg (Ne.symm he)]
      exact ((ih hl).cons e).trans (List.Perm.swap (key, value) e l)

/-- Entries with different keys that are new are all put between the others. -/
theorem perm_foldl_insertEntry (h : ((l ++ l').map Prod.fst).Nodup) :
    (l'.foldl (fun m e => insertEntry e.1 e.2 m) l).Perm (l ++ l') := by
  induction l' generalizing l with
  | nil => simp
  | cons e l' ih =>
    -- the entry is new among those that are there, and will not be written again
    have hmiddle : (e :: l ++ l').Perm (l ++ e :: l') := List.perm_middle.symm
    have hnew : ∀ e' ∈ l, e'.1 ≠ e.1 := by
      intro e' he' heq
      rw [List.map_append, List.map_cons] at h
      exact (List.nodup_append.mp h).2.2 _ (List.mem_map_of_mem he') _ List.mem_cons_self heq
    have hinsert := (perm_insertEntry e.2 hnew).append_right l'
    have hnodup : ((insertEntry e.1 e.2 l ++ l').map Prod.fst).Nodup :=
      ((hinsert.trans hmiddle).map Prod.fst).nodup_iff.mpr h
    exact ((ih hnodup).trans hinsert).trans hmiddle

/-! ### Maps -/

namespace SortedMap

theorem ext_entries {m m' : SortedMap α} (h : m.entries = m'.entries) : m = m' := by
  cases m
  cases m'
  cases h
  rfl

theorem nodup_keys (m : SortedMap α) : (m.entries.map Prod.fst).Nodup := by
  refine List.pairwise_map.mpr (m.ascending.imp fun {a b} hlt heq => ?_)
  rw [heq] at hlt
  exact String.lt_irrefl _ hlt

theorem entries_foldl_insert (l : List (String × α)) (m : SortedMap α) :
    (l.foldl (fun m e => m.insert e.1 e.2) m).entries =
      l.foldl (fun m e => insertEntry e.1 e.2 m) m.entries := by
  induction l generalizing m with
  | nil => rfl
  | cons e l ih => exact ih _

/-- A map has the entries that have been written into it. -/
theorem perm_entries_ofList (h : (l.map Prod.fst).Nodup) : (ofList l).entries.Perm l := by
  rw [ofList, entries_foldl_insert]
  exact perm_foldl_insertEntry (l := []) h

/-- A map is given by its entries in any order. -/
theorem ofList_eq_of_perm {m : SortedMap α} (h : l.Perm m.entries) : ofList l = m := by
  have hentries := (perm_entries_ofList ((h.map Prod.fst).nodup_iff.mpr m.nodup_keys)).trans h
  -- both have their keys in strictly ascending order
  refine ext_entries (hentries.eq_of_pairwise ?_ (ofList l).ascending m.ascending)
  exact fun a b _ _ hlt hgt => (String.lt_irrefl _ (String.lt_trans hlt hgt)).elim

end SortedMap

end QueryAssist
