import QueryAssist.Catalog.Store
import QueryAssist.Proofs.Hover.Log

/-!
# Samples and changes of the catalog

The catalog in force can be replaced or loaded again between hovers. The session does not notice: a
sample belongs to a name, and is kept as long as nothing of another name is hovered over. So a table
may show examples that were drawn for an earlier table of its name.

## Main definitions

* `Hover.Step` — a hover or a change of the catalog
* `Session.after`, `Log.after` — what holds after any steps

## Main results

* `Session.shown_after` — what a table shows after any steps, and when all of it is its own
* `Session.shown_after_replace` — a table that shows an example it does not have
-/

namespace QueryAssist.Hover

open Catalog (Table)

/-- What happens while a catalog is in force. -/
inductive Step where
  /-- Something is hovered over. -/
  | hover (target : Target)
  /-- Another catalog is put in force. -/
  | replace (c : Catalog)
  /-- The catalog is loaded again. -/
  | reload (files : Catalog.Files)

/-- The store and what is remembered of the hovers after a step, where `hover` says how the latter
changes with a hover. -/
def Step.apply {τ : Type} (hover : Catalog → τ → Target → τ) (now : Store × τ) : Step → Store × τ
  | .hover target => (now.1, hover now.1.catalog now.2 target)
  | .replace c => (now.1.replace c, now.2)
  | .reload files => (now.1.reload files, now.2)

/-- The store and the session after steps. -/
def Session.after {σ : Type} (sampler : Sampler σ) (count : Nat) (now : Store × Session σ)
    (steps : List Step) : Store × Session σ :=
  steps.foldl
    (Step.apply fun c s target => (s.hover sampler count c target.token target.after).2) now

/-- The store and the log after steps. -/
def Log.after {σ : Type} (sampler : Sampler σ) (count : Nat) (now : Store × Log σ)
    (steps : List Step) : Store × Log σ :=
  steps.foldl (Step.apply (record sampler count)) now

namespace Log

variable {σ : Type}

/-- Steps do to the session what they do to the log. -/
theorem after_toSession (sampler : Sampler σ) (count : Nat) (now : Store × Log σ)
    (steps : List Step) :
    Session.after sampler count (now.map id (toSession count)) steps =
      (after sampler count now steps).map id (toSession count) := by
  refine List.foldl_hom (Prod.map id (toSession count)) fun now step => ?_
  cases step with
  | hover target => exact congrArg (Prod.mk now.1) hover_toSession
  | replace c => rfl
  | reload files => rfl

/-- Samples are selections of the examples of the tables that they are drawn for. -/
theorem isSelection_of_mem_draws_after {sampler : Sampler σ} {count : Nat} {store : Store}
    {state : σ} {steps : List Step} {d : Draw}
    (h : d ∈ draws (after sampler count (store, start state) steps).2.visits) :
    IsSelection count d.table d.codes := by
  induction steps using List.reverseRecOn with
  | nil => cases h
  | append_singleton steps step ih =>
    rw [after, List.foldl_append] at h
    cases step with
    | hover target =>
      rcases mem_draws_record h with h | ⟨-, hselection⟩
      · exact ih h
      · exact hselection
    | replace c => exact ih h
    | reload files => exact ih h

end Log

namespace Session

/-- After any steps, a table that is hovered over shows a selection of its own examples, unless
there is a sample that is kept for its name and was drawn when the table of that name had other
examples; then it shows that sample. So all that it shows is its own if all of that sample is. What
it shows is on the card, one block of code for each example, and no others are. -/
theorem shown_after {σ : Type} (sampler : Sampler σ) (count : Nat) (store : Store) (state : σ)
    (steps : List Step) (target : Target) (t : Table)
    (htable : target.table? (after sampler count (store, start state) steps).1.catalog = some t) :
    let now := after sampler count (store, start state) steps
    let visits := (Log.after sampler count (store, .start state) steps).2.visits
    let shown := (examples sampler count t now.2).1
    (hover sampler count now.1.catalog target.token target.after now.2).1 =
        some (Card.ofTable now.1.catalog t shown) ∧
      Card.IsTableCard now.1.catalog t shown (Card.ofTable now.1.catalog t shown) ∧
      (IsSelection count t shown ∨
        count < t.examples.length ∧ ∃ d, Log.keptFor? t visits = some d ∧
          d.table.examples ≠ t.examples ∧ shown = d.codes ∧ IsSelection count d.table d.codes) ∧
      ((∀ code ∈ shown, ∃ e ∈ t.examples, e.code = code) ↔
        ∀ d, count < t.examples.length → Log.keptFor? t visits = some d →
          ∀ code ∈ d.codes, ∃ e ∈ t.examples, e.code = code) := by
  intro now visits shown
  let past := Log.after sampler count (store, .start state) steps
  have hnow : now = past.map id (Log.toSession count) :=
    Log.after_toSession sampler count (store, .start state) steps
  have hshown : shown = (examples sampler count t (past.2.toSession count)).1 :=
    congrArg (fun now => (examples sampler count t now.2).1) hnow
  refine ⟨congrArg Prod.fst (hover_of_table? htable), Card.isTableCard_ofTable _ t shown, ?_, ?_⟩
  · rcases Log.isSelection_examples_or sampler count t past.2 with h | ⟨hlt, d, hkept, hcodes⟩
    · exact Or.inl (hshown ▸ h)
    · -- the sample that is shown was drawn for an earlier table, perhaps with the same examples
      have hselection := Log.isSelection_of_mem_draws_after (Log.mem_draws_of_keptFor? hkept)
      by_cases hexamples : d.table.examples = t.examples
      · rw [hshown, hcodes]
        exact Or.inl (hselection.congr hexamples)
      · exact Or.inr ⟨hlt, d, hkept, hexamples, hshown.trans hcodes, hselection⟩
  · rw [hshown]
    constructor
    · intro hown d hlt hkept
      rwa [Log.examples_of_keptFor? hlt hkept] at hown
    · intro hkept
      rcases Log.isSelection_examples_or sampler count t past.2 with h | ⟨hlt, d, hd, hcodes⟩
      · intro code hcode
        exact h.exists_mem hcode
      · rw [hcodes]
        exact hkept d hlt hd

/-- A catalog with one table that has the same example twice. -/
def catalogOf (code : String) : Catalog :=
  (∅ : Catalog).addTable { name := "Logs", examples := [⟨code, none⟩, ⟨code, none⟩] }

theorem shown_after_replace_and_hover :
    let now := after .congruential 1 (.ofCatalog (catalogOf "a"), start 0)
      [.hover ⟨"Logs", []⟩, .replace (catalogOf "b"), .hover ⟨"count", []⟩]
    let t : Table := { name := "Logs", examples := [⟨"b", none⟩, ⟨"b", none⟩] }
    let shown := (examples .congruential 1 t now.2).1
    (⟨"Logs", []⟩ : Target).table? now.1.catalog = some t ∧
      (hover .congruential 1 now.1.catalog "Logs" [] now.2).1 =
        some (Card.ofTable now.1.catalog t shown) ∧
      Card.IsTableCard now.1.catalog t shown (Card.ofTable now.1.catalog t shown) ∧
      ∀ code ∈ shown, ∃ e ∈ t.examples, e.code = code := by
  intro now t shown
  have htable : (⟨"Logs", []⟩ : Target).table? now.1.catalog = some t := by decide +kernel
  have hkept : Log.keptFor? t (Log.after .congruential 1 (.ofCatalog (catalogOf "a"), .start 0)
      [.hover ⟨"Logs", []⟩, .replace (catalogOf "b"), .hover ⟨"count", []⟩]).2.visits = none := by
    decide +kernel
  obtain ⟨hshown, hcard, -, hown⟩ := shown_after .congruential 1 (.ofCatalog (catalogOf "a")) 0
    [.hover ⟨"Logs", []⟩, .replace (catalogOf "b"), .hover ⟨"count", []⟩] ⟨"Logs", []⟩ t htable
  refine ⟨htable, hshown, hcard, hown.mpr fun d _ hd => ?_⟩
  cases hkept.symm.trans hd

/-- After another catalog has been put in force, the card of a table that has just been hovered over
has an example on it that the table had before, although it does not have it any more. -/
theorem shown_after_replace :
    let now := after .congruential 1 (.ofCatalog (catalogOf "a"), start 0)
      [.hover ⟨"Logs", []⟩, .replace (catalogOf "b")]
    let t : Table := { name := "Logs", examples := [⟨"b", none⟩, ⟨"b", none⟩] }
    (⟨"Logs", []⟩ : Target).table? now.1.catalog = some t ∧
      (hover .congruential 1 now.1.catalog "Logs" [] now.2).1 =
        some (Card.ofTable now.1.catalog t ["a"]) ∧
      Card.IsTableCard now.1.catalog t ["a"] (Card.ofTable now.1.catalog t ["a"]) ∧
      ¬ ∃ e ∈ t.examples, e.code = "a" := by
  intro now t
  have htable : (⟨"Logs", []⟩ : Target).table? now.1.catalog = some t := by decide +kernel
  have hcard : (hover .congruential 1 now.1.catalog "Logs" [] now.2).1 =
      some (Card.ofTable now.1.catalog t ["a"]) := by decide +kernel
  exact ⟨htable, hcard, Card.isTableCard_ofTable now.1.catalog t ["a"], by decide +kernel⟩

end Session

end QueryAssist.Hover
