import QueryAssist.Proofs.Pattern.Search

/-!
# What a match remembers

While a pattern is matched, a place changes in two ways only: a character is read, or a group is
remembered. What both keep holds of every place that the pattern leads to, and so of every match
that is found in a line.

## Main definitions

* `Pattern.Place.IsIn` — a place in a given line
* `Pattern.ForallGroups` — a property that all groups of a pattern have

## Main results

* `of_mem_places` — what reading and remembering keep holds of every place reached
* `of_mem_findAll` — and of the place where any match in a line ends
* `getElem?_start_of_mem_findAll` — a group for one character begins at that character
-/

namespace QueryAssist.Pattern

variable {a : Pattern} {p : Char → Bool} {P : Place → Prop} {s t : Place} {c : Char}
  {l rest : List Char} {shorter : List Place} {m : Match} {span : Span} {k n : Nat}

/-- The place lies in `l`, at its column. -/
structure Place.IsIn (s : Place) (l : List Char) : Prop where
  /-- What is before the place and what is after it make up the line. -/
  append_eq : s.before.reverse ++ s.after = l
  /-- Columns count the characters before a place. -/
  column_eq : s.column = s.before.length

theorem Place.isIn_first (l : List Char) : (first l).IsIn l := ⟨rfl, rfl⟩

theorem Place.IsIn.step (h : s.IsIn l) (hafter : s.after = c :: rest) :
    (s.step c rest).IsIn l where
  append_eq := by
    rw [← h.append_eq, hafter]
    simp [Place.step]
  column_eq := by simp [Place.step, h.column_eq]

/-- The character at the column of a place is the next one. -/
theorem Place.IsIn.getElem?_column (h : s.IsIn l) (hafter : s.after = c :: rest) :
    l[s.column]? = some c := by
  rw [← h.append_eq, hafter, List.getElem?_append_right (by simp [h.column_eq])]
  simp [h.column_eq]

/-! ### Places that a pattern leads to -/

/-- All groups of a pattern, with their numbers, have the property `R`. -/
def ForallGroups (R : Nat → Pattern → Prop) : Pattern → Prop
  | .empty | .one _ | .run _ | .lineStart | .lineEnd | .wordBoundary => True
  | .seq a b | .alt a b => a.ForallGroups R ∧ b.ForallGroups R
  | .star a => a.ForallGroups R
  | .group k a => R k a ∧ a.ForallGroups R

theorem ForallGroups.imp {R R' : Nat → Pattern → Prop} (h : a.ForallGroups R)
    (himp : ∀ {k b}, R k b → R' k b) : a.ForallGroups R' := by
  induction a with
  | empty | one | run | lineStart | lineEnd | wordBoundary => trivial
  | seq a b iha ihb | alt a b iha ihb => exact ⟨iha h.1, ihb h.2⟩
  | star a ih => exact ih h
  | group k a ih => exact ⟨himp h.1, ih h.2⟩

/-- What holds of every pattern holds of all groups. -/
theorem forallGroups_of_forall {R : Nat → Pattern → Prop} (h : ∀ k b, R k b) (a : Pattern) :
    a.ForallGroups R := by
  induction a with
  | empty | one | run | lineStart | lineEnd | wordBoundary => trivial
  | seq a b iha ihb | alt a b iha ihb => exact ⟨iha, ihb⟩
  | star a ih => exact ih
  | group k a ih => exact ⟨h k a, ih⟩

theorem forallGroups_sequence {R : Nat → Pattern → Prop} {as : List Pattern}
    (h : ∀ a ∈ as, a.ForallGroups R) : (sequence as).ForallGroups R := by
  induction as with
  | nil => trivial
  | cons a as ih =>
    obtain ⟨ha, has⟩ := List.forall_mem_cons.mp h
    cases as with
    | nil => exact ha
    | cons b as => exact ⟨ha, ih has⟩

/-- A word has no groups. -/
theorem forallGroups_word (R : Nat → Pattern → Prop) (w : String) : (word w).ForallGroups R := by
  apply forallGroups_sequence
  intro a ha
  obtain ⟨c, -, rfl⟩ := List.mem_map.mp ha
  trivial

theorem of_mem_runPlaces
    (hstep : ∀ {s c rest}, P s → s.after = c :: rest → P (s.step c rest))
    (hs : P s) (hafter : s.after = rest) (hshorter : ∀ t ∈ shorter, P t)
    (ht : t ∈ runPlaces p rest s shorter) : P t := by
  have hnow : ∀ t ∈ s :: shorter, P t := List.forall_mem_cons.mpr ⟨hs, hshorter⟩
  induction rest generalizing s shorter with
  | nil => exact hnow t ht
  | cons c rest ih =>
    rw [runPlaces] at ht
    split at ht
    · have hs' := hstep hs hafter
      exact ih hs' rfl hnow ht (List.forall_mem_cons.mpr ⟨hs', hnow⟩)
    · exact hnow t ht

theorem of_mem_starPlaces {round : Place → List Place}
    (hround : ∀ {s t}, P s → t ∈ round s → P t) (hs : P s) (ht : t ∈ starPlaces round n s) :
    P t := by
  induction n generalizing s with
  | zero =>
    obtain rfl := List.mem_singleton.mp ht
    exact hs
  | succ n ih =>
    rw [starPlaces, List.mem_append] at ht
    rcases ht with ht | ht
    · obtain ⟨s', hs', ht⟩ := List.mem_flatMap.mp ht
      exact ih (hround hs (List.mem_filter.mp hs').1) ht
    · obtain rfl := List.mem_singleton.mp ht
      exact hs

/-- What every character read and every group remembered keeps holds of all places that a pattern
leads to. -/
theorem of_mem_places
    (hstep : ∀ {s c rest}, P s → s.after = c :: rest → P (s.step c rest))
    (hgroups : a.ForallGroups fun k b => ∀ {s t}, P s → t ∈ b.places s → P t →
      P { t with groups := (k, ⟨s.column, t.column⟩) :: t.groups })
    (hs : P s) (ht : t ∈ a.places s) : P t := by
  induction a generalizing s t with
  | empty =>
    obtain rfl := List.mem_singleton.mp ht
    exact hs
  | one p =>
    rw [places] at ht
    split at ht
    · cases ht
    · rename_i c rest hafter
      split at ht
      · obtain rfl := List.mem_singleton.mp ht
        exact hstep hs hafter
      · cases ht
  | run p => exact of_mem_runPlaces hstep hs rfl (by simp) ht
  | seq a b iha ihb =>
    obtain ⟨s', hs', ht⟩ := List.mem_flatMap.mp ht
    exact ihb hgroups.2 (iha hgroups.1 hs hs') ht
  | alt a b iha ihb =>
    rcases List.mem_append.mp ht with ht | ht
    · exact iha hgroups.1 hs ht
    · exact ihb hgroups.2 hs ht
  | star a ih => exact of_mem_starPlaces (fun hs ht => ih hgroups hs ht) hs ht
  | group k a ih =>
    obtain ⟨t', ht', rfl⟩ := List.mem_map.mp ht
    exact hgroups.1 hs ht' (ih hgroups.2 hs ht')
  | lineStart | lineEnd | wordBoundary =>
    rw [places] at ht
    split at ht
    · obtain rfl := List.mem_singleton.mp ht
      exact hs
    · cases ht

/-! ### Matches in a line -/

theorem mem_places_of_matchAt? (h : a.matchAt? s = some m) :
    m.stop ∈ a.places { s with groups := [] } := by
  obtain ⟨t, ht, rfl⟩ := Option.map_eq_some_iff.mp h
  exact List.mem_of_head? ht

theorem exists_matchAt?_of_findFrom? (hs : s.IsIn l) (hafter : s.after = rest)
    (h : a.findFrom? rest s = some m) : ∃ s', s'.IsIn l ∧ a.matchAt? s' = some m := by
  induction rest generalizing s with
  | nil => exact ⟨s, hs, h⟩
  | cons c rest ih =>
    rw [findFrom?, Option.or_eq_some_iff] at h
    rcases h with h | ⟨-, h⟩
    · exact ⟨s, hs, h⟩
    · exact ih (hs.step hafter) rfl h

/-- A match ends in the line in which it begins. -/
theorem isIn_stop_of_matchAt? (hs : s.IsIn l) (h : a.matchAt? s = some m) :
    m.stop.IsIn l :=
  of_mem_places (P := (·.IsIn l)) Place.IsIn.step
    (forallGroups_of_forall (fun _ _ _ _ _ _ ht => ⟨ht.append_eq, ht.column_eq⟩) a)
    (s := { s with groups := [] }) ⟨hs.append_eq, hs.column_eq⟩ (mem_places_of_matchAt? h)

theorem exists_matchAt?_of_mem_findAllFrom (hs : s.IsIn l) (hm : m ∈ a.findAllFrom n s) :
    ∃ s', s'.IsIn l ∧ a.matchAt? s' = some m := by
  induction n generalizing s with
  | zero => cases hm
  | succ n ih =>
    rw [findAllFrom] at hm
    split at hm
    · cases hm
    · rename_i m' hm'
      obtain ⟨s', hs', hmatch⟩ := exists_matchAt?_of_findFrom? hs rfl hm'
      have hstop := isIn_stop_of_matchAt? hs' hmatch
      split at hm
      · rcases List.mem_cons.mp hm with rfl | hm
        · exact ⟨s', hs', hmatch⟩
        · exact ih hstop hm
      · split at hm
        · obtain rfl := List.mem_singleton.mp hm
          exact ⟨s', hs', hmatch⟩
        · rename_i c rest hafter
          rcases List.mem_cons.mp hm with rfl | hm
          · exact ⟨s', hs', hmatch⟩
          · exact ih (hstop.step hafter) hm

/-- What holds at every place of a line, and is kept by every character read and every group
remembered, holds where a match in the line ends. -/
theorem of_mem_findAll (hstart : ∀ s : Place, s.IsIn l → P { s with groups := [] })
    (hstep : ∀ {s c rest}, P s → s.after = c :: rest → P (s.step c rest))
    (hgroups : a.ForallGroups fun k b => ∀ {s t}, P s → t ∈ b.places s → P t →
      P { t with groups := (k, ⟨s.column, t.column⟩) :: t.groups })
    (hm : m ∈ a.findAll l) : P m.stop := by
  obtain ⟨s, hs, hmatch⟩ := exists_matchAt?_of_mem_findAllFrom (Place.isIn_first l) hm
  exact of_mem_places hstep hgroups (hstart s hs) (mem_places_of_matchAt? hmatch)

/-- The place lies in `l`, and what it remembers as group `k` begins at the character `c`. -/
structure Place.BeginsGroup (s : Place) (l : List Char) (k : Nat) (c : Char) : Prop extends
    s.IsIn l where
  /-- Every group `k` begins at a `c`. -/
  getElem?_start : ∀ {span}, (k, span) ∈ s.groups → l[span.start]? = some c

/-- If the groups with the number `k` stand for the character `c` alone, then what they remember
begins at a `c`. -/
theorem getElem?_start_of_mem_findAll
    (hgroups : a.ForallGroups fun j b => j = k → b = char c)
    (hm : m ∈ a.findAll l) (hspan : m.group? k = some span) : l[span.start]? = some c := by
  have hstop : m.stop.BeginsGroup l k c := by
    refine of_mem_findAll (P := (·.BeginsGroup l k c)) (fun s hs => ?_) (fun hs hafter => ?_)
      (hgroups.imp fun {j b} hb s t hs ht ht' => ?_) hm
    · exact ⟨⟨hs.append_eq, hs.column_eq⟩, fun h => by cases h⟩
    · exact ⟨hs.toIsIn.step hafter, hs.getElem?_start⟩
    · refine ⟨⟨ht'.append_eq, ht'.column_eq⟩, fun hspan => ?_⟩
      rcases List.mem_cons.mp hspan with heq | hspan
      · -- the group that is remembered begins where its pattern reads a `c`
        cases heq
        obtain rfl := hb rfl
        rw [char, places] at ht
        split at ht
        · cases ht
        · rename_i d rest hafter
          split at ht
          · rename_i hd
            rw [hs.toIsIn.getElem?_column hafter, beq_iff_eq.mp hd]
          · cases ht
      · exact ht'.getElem?_start hspan
  obtain ⟨before, after, hgroups, -⟩ := List.lookup_eq_some_iff.mp hspan
  exact hstop.getElem?_start (hgroups ▸ List.mem_append_right _ List.mem_cons_self)

end QueryAssist.Pattern
