import Mathlib.Data.List.FinRange
import QueryAssist.Hover.Session

/-!
# One hover

A hover either shows a table with more examples than there is room for, and then a sample of them,
or it draws nothing and only ends the session of any other name. Whatever a table shows without an
old sample is a selection of its own examples.

## Main definitions

* `Hover.Target` — what is hovered over
* `Hover.Session.draw` — a fresh sample
* `Hover.IsSelection` — examples of a table at different positions, the shortest one first

## Main results

* `Session.hover_of_table?`, `Session.examples_of_sample`, `Session.examples_of_fresh` — what a
  table shows and leaves behind
* `Session.hover_of_sampled?_eq_none` — what all other hovers leave behind
* `isSelection_draw`, `isSelection_shortestFirst` — fresh samples, and all the examples of a small
  table, are selections
-/

namespace QueryAssist.Hover

open Catalog (Table)

/-! ### Targets -/

/-- What is hovered over. -/
structure Target where
  /-- The token. -/
  token : String
  /-- The text behind it. -/
  after : List Char := []

namespace Target

/-- What the token stands for. -/
def resolve? (target : Target) (c : Catalog) : Option Symbol :=
  Symbol.resolve? c target.token target.after

/-- The name in lower case of what the token stands for; if it stands for nothing, the token itself
without its decoration. -/
def symbol (target : Target) (c : Catalog) : String :=
  Text.lower ((target.resolve? c).elim (Token.stripDecoration target.token) (·.name))

/-- The table that the token stands for. -/
def table? (target : Target) (c : Catalog) : Option Table :=
  match target.resolve? c with
  | some (.table t) => some t
  | _ => none

/-- The table that the token stands for, if it has more than `count` examples. -/
def sampled? (target : Target) (c : Catalog) (count : Nat) : Option Table :=
  (target.table? c).filter fun t => count < t.examples.length

variable {target : Target} {c : Catalog} {count : Nat} {t : Table}

theorem table?_eq_some_iff : target.table? c = some t ↔ target.resolve? c = some (.table t) := by
  unfold table?
  split
  · rename_i t' h
    simp [h]
  · rename_i h
    simpa using h t

theorem sampled?_eq_some_iff :
    target.sampled? c count = some t ↔ target.table? c = some t ∧ count < t.examples.length := by
  simp [sampled?, Option.filter_eq_some_iff]

theorem symbol_of_table? (h : target.table? c = some t) : target.symbol c = Text.lower t.name := by
  rw [symbol, table?_eq_some_iff.mp h]
  rfl

/-- A name that stands for a table is not called. -/
theorem ofCall?_ne_table (c : Catalog) (name : String) :
    Symbol.ofCall? c name ≠ some (.table t) := by
  simp [Symbol.ofCall?, Option.or_eq_some_iff]

theorem findTable?_of_ofName? {name : String} (h : Symbol.ofName? c name = some (.table t)) :
    c.findTable? name = some t := by
  simp only [Symbol.ofName?, Option.or_eq_some_iff, Option.map_eq_some_iff, Option.map_eq_none_iff,
    reduceCtorEq, and_false, exists_false, false_or, Symbol.table.injEq, exists_eq_right,
    or_false] at h
  exact h.2.2.2

/-- A table that is hovered over is one of the catalog. -/
theorem mem_values_of_table? (h : target.table? c = some t) : t ∈ c.tables.values := by
  have hname : ∃ name, c.findTable? name = some t := by
    have h := table?_eq_some_iff.mp h
    unfold resolve? Symbol.resolve? at h
    -- with a parenthesis behind it or without, and as it is or without its decoration
    split at h <;> rcases Option.or_eq_some_iff.mp h with h | ⟨-, h⟩
    · exact (ofCall?_ne_table c _ h).elim
    · exact (ofCall?_ne_table c _ h).elim
    · exact ⟨_, findTable?_of_ofName? h⟩
    · exact ⟨_, findTable?_of_ofName? h⟩
  obtain ⟨name, h⟩ := hname
  obtain ⟨before, behind, hentries, -⟩ := List.lookup_eq_some_iff.mp h
  exact List.mem_map.mpr ⟨(_, t), hentries ▸ List.mem_append_right _ List.mem_cons_self, rfl⟩

end Target

/-! ### Selections -/

/-- As many examples of a table as there is room for, at different positions, the shortest one
first. -/
structure IsSelection (count : Nat) (t : Table) (codes : List String) : Prop where
  /-- They stand by their length in bytes. -/
  sorted : codes.Pairwise fun a b => a.utf8ByteSize ≤ b.utf8ByteSize
  /-- They are examples of the table at different positions. -/
  drawn : ∃ positions : List (Fin t.examples.length), positions.Nodup ∧
    positions.length = min count t.examples.length ∧
    codes.Perm (positions.map fun i => t.examples[i].code)

variable {count : Nat} {t : Table} {codes : List String}

/-- The examples of a table by their positions. -/
theorem map_code_finRange (t : Table) :
    (List.finRange t.examples.length).map (fun i => t.examples[i].code) =
      t.examples.map (·.code) := by
  calc
    _ = ((List.finRange t.examples.length).map fun i => t.examples[i]).map (·.code) :=
      List.map_map.symm
    _ = t.examples.map (·.code) := congrArg _ (List.map_getElem_finRange t.examples)

/-- If there is room for all examples of a table, then a selection has them all. -/
theorem IsSelection.perm (h : IsSelection count t codes) (hle : t.examples.length ≤ count) :
    codes.Perm (t.examples.map (·.code)) := by
  obtain ⟨positions, hnodup, hlength, hperm⟩ := h.drawn
  -- as many different positions as there are can only be all of them
  have hall : positions.Perm (List.finRange t.examples.length) := by
    refine (List.subperm_of_subset hnodup fun i _ => List.mem_finRange i).perm_of_length_le ?_
    rw [List.length_finRange, hlength, min_eq_right hle]
  rw [← map_code_finRange]
  exact hperm.trans (hall.map _)

theorem IsSelection.exists_mem {code : String} (h : IsSelection count t codes)
    (hmem : code ∈ codes) : ∃ e ∈ t.examples, e.code = code := by
  obtain ⟨positions, -, -, hperm⟩ := h.drawn
  obtain ⟨i, -, rfl⟩ := List.mem_map.mp (hperm.mem_iff.mp hmem)
  exact ⟨_, List.getElem_mem _, rfl⟩

/-- Selections depend on the examples of the table only. -/
theorem IsSelection.congr {t' : Table} (h : IsSelection count t codes)
    (hexamples : t.examples = t'.examples) : IsSelection count t' codes := by
  cases t
  cases t'
  cases hexamples
  exact ⟨h.sorted, h.drawn⟩

theorem pairwise_shortestFirst (codes : List String) :
    (Session.shortestFirst codes).Pairwise fun a b => a.utf8ByteSize ≤ b.utf8ByteSize := by
  have hsorted : (Session.shortestFirst codes).Pairwise fun a b =>
      decide (a.utf8ByteSize ≤ b.utf8ByteSize) = true := by
    apply List.pairwise_mergeSort
    · intro a b c hab hbc
      simp only [decide_eq_true_eq] at hab hbc ⊢
      exact hab.trans hbc
    · intro a b
      simpa using Nat.le_total a.utf8ByteSize b.utf8ByteSize
  simpa using hsorted

/-- Elements of a list read off at positions that are all within it. -/
theorem filterMap_getElem?_of_lt {α : Type*} (l : List α) {positions : List Nat}
    (hlt : ∀ i ∈ positions, i < l.length) :
    positions.filterMap (l[·]?) = (positions.pmap Fin.mk hlt).map fun i => l[i] := by
  induction positions with
  | nil => rfl
  | cons i positions ih =>
    have hi := hlt i List.mem_cons_self
    rw [List.filterMap_cons_some (List.getElem?_eq_getElem hi),
      ih fun j hj => hlt j (List.mem_cons_of_mem _ hj)]
    rfl

/-- All the examples of a table with room for them are a selection. -/
theorem isSelection_shortestFirst (hle : t.examples.length ≤ count) :
    IsSelection count t (Session.shortestFirst (t.examples.map (·.code))) where
  sorted := pairwise_shortestFirst _
  drawn := by
    refine ⟨List.finRange _, List.nodup_finRange _, ?_, ?_⟩
    · rw [List.length_finRange, min_eq_right hle]
    · rw [map_code_finRange]
      exact List.mergeSort_perm _ _

namespace Session

variable {σ : Type}

/-- A fresh sample of the examples of a table, and the next state of the sampler. -/
def draw (sampler : Sampler σ) (count : Nat) (t : Table) (state : σ) : List String × σ :=
  let pool := t.examples.map (·.code)
  let (positions, state) := sampler.draw pool.length count state
  (shortestFirst (positions.filterMap (pool[·]?)), state)

end Session

/-- A fresh sample is a selection. -/
theorem isSelection_draw {σ : Type} (sampler : Sampler σ) (state : σ)
    (hle : count ≤ t.examples.length) :
    IsSelection count t (Session.draw sampler count t state).1 where
  sorted := pairwise_shortestFirst _
  drawn := by
    have hlt : ∀ i ∈ (sampler.draw t.examples.length count state).1, i < t.examples.length :=
      fun i => sampler.lt_of_mem_draw state
    -- the laws of the sampler, one for each part
    refine ⟨List.pmap Fin.mk _ hlt, ?_, ?_, ?_⟩
    · exact (sampler.nodup_draw state).pmap fun i _ j _ => Fin.mk.inj
    · rw [List.length_pmap, sampler.length_draw state hle, min_eq_left hle]
    · refine (List.mergeSort_perm _ _).trans (.of_eq ?_)
      simp only [List.length_map, List.getElem?_map]
      rw [← List.map_filterMap, filterMap_getElem?_of_lt _ hlt, List.map_map]
      rfl

namespace Session

variable {σ : Type} {sampler : Sampler σ} {target : Target} {c : Catalog} {s : Session σ}

/-- A table with room for all its examples shows them all, and ends the session of any other
name. -/
theorem examples_of_le (hle : t.examples.length ≤ count) :
    examples sampler count t s =
      (shortestFirst (t.examples.map (·.code)), s.endUnless t.name) := by
  simp [examples, hle]

/-- A table for which there is a sample shows it. -/
theorem examples_of_sample {codes : List String} (hlt : count < t.examples.length)
    (hsample : s.sample = some ⟨Text.lower t.name, count, codes⟩) :
    examples sampler count t s = (codes, s) := by
  simp [examples, hlt, hsample, Option.filter]

/-- A table for which there is no sample shows a fresh one, which then is that of the session. -/
theorem examples_of_fresh (hlt : count < t.examples.length)
    (hsample : ∀ sample, s.sample = some sample →
      ¬ (sample.symbol = Text.lower t.name ∧ sample.count = count)) :
    examples sampler count t s =
      ((draw sampler count t s.state).1,
        ⟨some ⟨Text.lower t.name, count, (draw sampler count t s.state).1⟩,
          (draw sampler count t s.state).2⟩) := by
  have hnone : s.sample.filter
      (fun sample => sample.symbol == Text.lower t.name && sample.count == count) = none := by
    simpa [Option.filter_eq_none_iff] using hsample
  simp [examples, hlt, hnone, draw]

/-- A hover over a table shows its card. -/
theorem hover_of_table? (h : target.table? c = some t) :
    hover sampler count c target.token target.after s =
      (some (Card.ofTable c t (examples sampler count t s).1), (examples sampler count t s).2) := by
  have hresolve : Symbol.resolve? c target.token target.after = some (.table t) :=
    Target.table?_eq_some_iff.mp h
  simp [hover, hresolve]

/-- A hover that draws no sample ends the session of any other name. -/
theorem hover_of_sampled?_eq_none (h : target.sampled? c count = none) :
    (hover sampler count c target.token target.after s).2 =
      { s with sample := s.sample.filter (·.symbol == target.symbol c) } := by
  cases htable : target.table? c with
  | some t =>
    have hle : t.examples.length ≤ count := by
      simpa [Target.sampled?, htable] using h
    rw [hover_of_table? htable, examples_of_le hle, Target.symbol_of_table? htable]
    rfl
  | none =>
    cases hresolve : target.resolve? c with
    | none =>
      rw [Target.symbol, hresolve]
      unfold Target.resolve? at hresolve
      simp [hover, hresolve, endUnless]
    | some symbol =>
      rw [Target.symbol, hresolve]
      unfold Target.resolve? at hresolve
      cases symbol with
      | table t => cases htable.symm.trans (Target.table?_eq_some_iff.mpr hresolve)
      | function e => simp [hover, hresolve, endUnless]
      | operator e => simp [hover, hresolve, endUnless]
      | keyword k => simp [hover, hresolve, endUnless]
      | resourceType id r => simp [hover, hresolve, endUnless]

end Session

end QueryAssist.Hover
