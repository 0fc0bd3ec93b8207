import Mathlib.Data.List.Nodup
import Mathlib.Data.List.Perm.Basic
import Mathlib.Data.String.Basic
import Mathlib.Order.Bounds.Basic
import QueryAssist.Proofs.Spelling.Distance
import QueryAssist.Spelling.Suggest

/-!
# Which names are suggested

The order of suggestions puts the spellings of a name that differ in case only next to each other,
the smallest one first, because their distance is that of their common form in lower case. So what
is kept of neighbours is one spelling of every name, and the suggestions are the beginning of a list
that the candidates determine as a set.

## Main definitions

* `Spelling.Qualifies` — a known name that may be meant by the unknown one
* `Spelling.IsDistance` — the least number of edits that lead from one text to another one
* `Spelling.Closer` — the strict order of suggestions
* `Spelling.IsRanking` — the smallest spellings of all names that may be meant, closest first

## Main results

* `Scored.mem_dropVariants_iff` — of neighbours in order the least of every name is kept
* `closer_iff` — the distances that are computed order names by the least numbers of edits
* `IsRanking.unique` — a set of candidates has one ranking
* `suggestBy_eq_take_ranking` — the suggestions are the first names of the ranking
-/

namespace QueryAssist.Spelling

variable {isClose : String → String → Bool} {unknown name : String}
  {candidates candidates' names names' : List String}

/-! ### Dropping variants -/

namespace Scored

variable {a b c : Scored} {l : List Scored}

/-- One entry comes before another one and is no variant of it. -/
def Before (a b : Scored) : Prop :=
  a.distance < b.distance ∨ (a.distance = b.distance ∧ a.lowered < b.lowered)

theorem precedes_iff :
    a.precedes b = true ↔ a.Before b ∨
      (a.distance = b.distance ∧ a.lowered = b.lowered ∧ a.name ≤ b.name) := by
  simp [precedes, Before, and_or_left, or_assoc]

theorem Before.trans (h : a.Before b) (h' : b.Before c) : a.Before c := by
  rcases h with h | ⟨h, hlt⟩
  · left
    rcases h' with h' | ⟨h', -⟩ <;> omega
  · rcases h' with h' | ⟨h', hlt'⟩
    · left
      omega
    · exact Or.inr ⟨h.trans h', hlt.trans hlt'⟩

instance : IsTrans Scored Before := ⟨fun _ _ _ => Before.trans⟩

theorem precedes_refl (a : Scored) : a.precedes a = true :=
  precedes_iff.mpr (Or.inr ⟨rfl, rfl, le_refl _⟩)

theorem precedes_trans (a b c : Scored) (h : a.precedes b = true) (h' : b.precedes c = true) :
    a.precedes c = true := by
  rw [precedes_iff] at h h' ⊢
  rcases h with h | ⟨hdistance, hlowered, hname⟩
  · left
    rcases h' with h' | ⟨hdistance', hlowered', -⟩
    · exact h.trans h'
    · rwa [Before, ← hdistance', ← hlowered']
  · rcases h' with h' | ⟨hdistance', hlowered', hname'⟩
    · left
      rwa [Before, hdistance, hlowered]
    · exact Or.inr ⟨hdistance.trans hdistance', hlowered.trans hlowered', hname.trans hname'⟩

theorem precedes_total (a b : Scored) : (a.precedes b || b.precedes a) = true := by
  rw [Bool.or_eq_true, precedes_iff, precedes_iff]
  rcases Nat.lt_trichotomy a.distance b.distance with h | h | h
  · exact Or.inl (Or.inl (Or.inl h))
  · rcases lt_trichotomy a.lowered b.lowered with hlt | heq | hgt
    · exact Or.inl (Or.inl (Or.inr ⟨h, hlt⟩))
    · exact (le_total a.name b.name).imp (fun hle => Or.inr ⟨h, heq, hle⟩)
        fun hle => Or.inr ⟨h.symm, heq.symm, hle⟩
    · exact Or.inr (Or.inl (Or.inr ⟨h.symm, hgt⟩))
  · exact Or.inr (Or.inl (Or.inl h))

theorem precedes_antisymm (h : a.precedes b = true) (h' : b.precedes a = true) : a = b := by
  rw [precedes_iff] at h h'
  have hirrefl : ∀ d : Scored, ¬ d.Before d := fun d hd => by simp [Before] at hd
  rcases h with h | ⟨hdistance, hlowered, hname⟩
  · rcases h' with h' | ⟨hdistance', hlowered', -⟩
    · exact (hirrefl a (h.trans h')).elim
    · rw [Before, hdistance', hlowered'] at h
      exact (hirrefl a h).elim
  · rcases h' with h' | ⟨-, -, hname'⟩
    · rw [Before, hdistance, hlowered] at h'
      exact (hirrefl b h').elim
    · have hname : a.name = b.name := le_antisymm hname hname'
      cases a
      cases b
      simp_all

/-- Entries that differ in lower case and are not in the wrong order are in the right one. -/
theorem before_of_precedes (h : a.precedes b = true) (hne : a.lowered ≠ b.lowered) : a.Before b :=
  (precedes_iff.mp h).resolve_right fun h' => hne h'.2.1

/-! ### What is kept of neighbours -/

theorem go_sublist (last : Scored) (rest : List Scored) :
    (dropVariants.go last rest).Sublist rest := by
  induction rest generalizing last with
  | nil => exact List.Sublist.refl []
  | cons b rest ih =>
    rw [dropVariants.go]
    split
    · exact (ih last).cons b
    · exact (ih b).cons_cons b

theorem dropVariants_sublist (l : List Scored) : (dropVariants l).Sublist l := by
  cases l with
  | nil => exact List.Sublist.refl []
  | cons a rest => exact (go_sublist a rest).cons_cons a

theorem isChain_go (h : (a :: l).Pairwise fun a b => a.precedes b = true) :
    (a :: dropVariants.go a l).IsChain Before := by
  induction l generalizing a with
  | nil => exact List.IsChain.singleton a
  | cons b l ih =>
    obtain ⟨ha, hl⟩ := List.pairwise_cons.mp h
    rw [dropVariants.go]
    split
    · -- a variant is dropped, and the rest follows the entry before it
      exact ih (h.sublist ((List.sublist_cons_self b l).cons_cons a))
    · rename_i hne
      apply List.IsChain.cons_cons _ (ih hl)
      exact before_of_precedes (ha b List.mem_cons_self) (Ne.symm hne)

/-- What is kept of entries in order is strictly in order. -/
theorem pairwise_dropVariants (h : l.Pairwise fun a b => a.precedes b = true) :
    (dropVariants l).Pairwise Before := by
  cases l with
  | nil => exact List.Pairwise.nil
  | cons a l => exact (isChain_go h).pairwise

theorem exists_mem_go (h : (a :: l).Pairwise fun a b => a.precedes b = true) (hb : b ∈ a :: l) :
    ∃ c ∈ a :: dropVariants.go a l, c.lowered = b.lowered ∧ c.precedes b = true := by
  induction l generalizing a with
  | nil =>
    obtain rfl := List.mem_singleton.mp hb
    exact ⟨b, List.mem_cons_self, rfl, precedes_refl b⟩
  | cons d l ih =>
    obtain ⟨ha, hl⟩ := List.pairwise_cons.mp h
    rw [dropVariants.go]
    split
    · rename_i hd
      rcases List.mem_cons.mp hb with rfl | hb
      · exact ⟨b, List.mem_cons_self, rfl, precedes_refl b⟩
      rcases List.mem_cons.mp hb with rfl | hb
      · -- the entry is dropped, and the last one that was kept stands for it
        exact ⟨a, List.mem_cons_self, hd.symm, ha b List.mem_cons_self⟩
      · apply ih (h.sublist _) (List.mem_cons_of_mem a hb)
        exact (List.sublist_cons_self d l).cons_cons a
    · rcases List.mem_cons.mp hb with rfl | hb
      · exact ⟨b, List.mem_cons_self, rfl, precedes_refl b⟩
      · obtain ⟨c, hc, hvariant⟩ := ih hl hb
        exact ⟨c, List.mem_cons_of_mem a hc, hvariant⟩

/-- Every entry has a variant that is kept and not behind it. -/
theorem exists_mem_dropVariants (h : l.Pairwise fun a b => a.precedes b = true) (hb : b ∈ l) :
    ∃ c ∈ dropVariants l, c.lowered = b.lowered ∧ c.precedes b = true := by
  cases l with
  | nil => cases hb
  | cons a l => exact exists_mem_go h hb

/-- If variants are equally distant, the one that is kept is the least of them. -/
theorem mem_dropVariants_iff (h : l.Pairwise fun a b => a.precedes b = true)
    (hdistance : ∀ a ∈ l, ∀ b ∈ l, a.lowered = b.lowered → a.distance = b.distance) :
    a ∈ dropVariants l ↔ a ∈ l ∧ ∀ b ∈ l, b.lowered = a.lowered → a.precedes b = true := by
  have hsub : ∀ b ∈ dropVariants l, b ∈ l := fun b hb => (dropVariants_sublist l).subset hb
  -- what is kept has each name once, as neither of two variants comes before the other
  have hnodup : ((dropVariants l).map (·.lowered)).Nodup := by
    apply List.pairwise_map.mpr
    apply (pairwise_dropVariants h).imp_of_mem
    intro b c hb hc hbefore heq
    rw [Before, hdistance b (hsub b hb) c (hsub c hc) heq, heq] at hbefore
    simp at hbefore
  constructor
  · intro ha
    refine ⟨hsub a ha, fun b hb hvariant => ?_⟩
    obtain ⟨c, hc, hlowered, hprecedes⟩ := exists_mem_dropVariants h hb
    obtain rfl := List.inj_on_of_nodup_map hnodup hc ha (hlowered.trans hvariant)
    exact hprecedes
  · rintro ⟨ha, hleast⟩
    obtain ⟨c, hc, hlowered, hprecedes⟩ := exists_mem_dropVariants h ha
    obtain rfl := precedes_antisymm (hleast c (hsub c hc) hlowered) hprecedes
    exact hc

end Scored

/-! ### The candidates -/

/-- A name may be meant by the unknown one: in lower case it begins with the same character, or it
is close enough. -/
def Qualifies (isClose : String → String → Bool) (unknown name : String) : Prop :=
  (∃ c, (Text.lower unknown).toList.head? = some c ∧ (Text.lower name).toList.head? = some c) ∨
    isClose (Text.lower unknown) (Text.lower name) = true

/-- The candidates that may be meant and are spellings of a name, case aside. -/
def spellings (isClose : String → String → Bool) (unknown : String) (candidates : List String)
    (name : String) : Set String :=
  {s | s ∈ candidates ∧ Qualifies isClose unknown s ∧ Text.lower s = Text.lower name}

/-- No fewer than `n` insertions, deletions and replacements of single characters lead from one text
to the other, and `n` do. -/
def IsDistance (s t : String) (n : Nat) : Prop := IsLeast {k | Edits k s.toList t.toList} n

/-- One name is suggested before another one: in lower case, fewer edits of the unknown name lead to
it, or as many, and it is smaller. -/
def Closer (unknown a b : String) : Prop :=
  ∃ m n, IsDistance (Text.lower unknown) (Text.lower a) m ∧
    IsDistance (Text.lower unknown) (Text.lower b) n ∧
    (m < n ∨ (m = n ∧ Text.lower a < Text.lower b))

/-- The smallest spelling of every name that may be meant, the closest name first. -/
structure IsRanking (isClose : String → String → Bool) (unknown : String)
    (candidates names : List String) : Prop where
  /-- The names are those that no other spelling is smaller than. -/
  mem_iff : ∀ name, name ∈ names ↔ IsLeast (spellings isClose unknown candidates name) name
  /-- They are strictly in order. -/
  pairwise : names.Pairwise (Closer unknown)

/-! ### The order of suggestions -/

/-- The distance of a name to the unknown one, both in lower case, as it is computed. -/
def distanceTo (unknown name : String) : Nat :=
  textDistance (Text.lower unknown) (Text.lower name)

theorem isDistance_distanceTo (unknown name : String) :
    IsDistance (Text.lower unknown) (Text.lower name) (distanceTo unknown name) :=
  isLeast_distance _ _

/-- The distances that are computed put names in the order of suggestions. -/
theorem closer_iff {a b : String} :
    Closer unknown a b ↔ distanceTo unknown a < distanceTo unknown b ∨
      (distanceTo unknown a = distanceTo unknown b ∧ Text.lower a < Text.lower b) := by
  constructor
  · rintro ⟨m, n, hm, hn, h⟩
    rwa [hm.unique (isDistance_distanceTo unknown a),
      hn.unique (isDistance_distanceTo unknown b)] at h
  · intro h
    exact ⟨_, _, isDistance_distanceTo unknown a, isDistance_distanceTo unknown b, h⟩

theorem Closer.asymm {a b : String} (h : Closer unknown a b) : ¬ Closer unknown b a := by
  rw [closer_iff] at h ⊢
  rintro (h' | ⟨h', hlt'⟩)
  · rcases h with h | ⟨h, -⟩ <;> omega
  · rcases h with h | ⟨-, hlt⟩
    · omega
    · exact lt_asymm hlt hlt'

/-- The candidates have one ranking, which depends on their set only. -/
theorem IsRanking.unique (h : IsRanking isClose unknown candidates names)
    (h' : IsRanking isClose unknown candidates' names')
    (hmem : ∀ s, s ∈ candidates' ↔ s ∈ candidates) : names' = names := by
  have hnodup : ∀ {l : List String}, l.Pairwise (Closer unknown) → l.Nodup := by
    intro l hl
    apply hl.imp
    rintro a b hab rfl
    exact hab.asymm hab
  have hspellings :
      spellings isClose unknown candidates' = spellings isClose unknown candidates := by
    funext name
    ext s
    simp only [spellings, hmem]
  have hperm : names'.Perm names := by
    apply (List.perm_ext_iff_of_nodup (hnodup h'.pairwise) (hnodup h.pairwise)).mpr
    intro name
    rw [h'.mem_iff, h.mem_iff, hspellings]
  exact hperm.eq_of_pairwise (fun a b _ _ hab hba => (hab.asymm hba).elim) h'.pairwise h.pairwise

/-! ### The ranking -/

/-- The entry of a candidate for the unknown name. -/
def Scored.ofName (unknown name : String) : Scored :=
  ⟨distanceTo unknown name, Text.lower name, name⟩

theorem Scored.before_ofName_iff {a b : String} :
    (ofName unknown a).Before (.ofName unknown b) ↔ Closer unknown a b := by
  simp only [Before, ofName, closer_iff]

theorem score?_eq_some_iff {s : Scored} :
    score? isClose (Text.lower unknown) name = some s ↔
      Qualifies isClose unknown name ∧ s = .ofName unknown name := by
  have hqualifies : Qualifies isClose unknown name ↔
      ((Text.lower unknown).toList.head?.isSome &&
          (Text.lower name).toList.head? == (Text.lower unknown).toList.head? ||
        isClose (Text.lower unknown) (Text.lower name)) = true := by
    rw [Qualifies]
    cases (Text.lower unknown).toList.head? with
    | none => simp
    | some c => simp
  rw [score?, hqualifies]
  split
  · rename_i h
    simp [h, Scored.ofName, distanceTo, eq_comm]
  · rename_i h
    simp [h]

/-- The entries of the candidates that may be meant, in order. -/
def entries (isClose : String → String → Bool) (unknown : String) (candidates : List String) :
    List Scored :=
  (candidates.filterMap (score? isClose (Text.lower unknown))).mergeSort Scored.precedes

theorem pairwise_entries :
    (entries isClose unknown candidates).Pairwise fun a b => a.precedes b = true :=
  List.pairwise_mergeSort Scored.precedes_trans Scored.precedes_total _

theorem mem_entries_iff {s : Scored} :
    s ∈ entries isClose unknown candidates ↔
      s.name ∈ candidates ∧ Qualifies isClose unknown s.name ∧ s = .ofName unknown s.name := by
  rw [entries, List.mem_mergeSort, List.mem_filterMap]
  constructor
  · rintro ⟨name, hname, hscore⟩
    obtain ⟨hqualifies, rfl⟩ := score?_eq_some_iff.mp hscore
    exact ⟨hname, hqualifies, rfl⟩
  · rintro ⟨hname, hqualifies, hs⟩
    exact ⟨s.name, hname, score?_eq_some_iff.mpr ⟨hqualifies, hs⟩⟩

theorem suggestBy_eq_take (limit : Nat) :
    suggestBy isClose unknown candidates limit =
      ((Scored.dropVariants (entries isClose unknown candidates)).map (·.name)).take limit := by
  rw [suggestBy, entries, List.map_take]

/-- The entry that is kept of a name has its smallest spelling. -/
theorem ofName_mem_dropVariants_iff :
    Scored.ofName unknown name ∈ Scored.dropVariants (entries isClose unknown candidates) ↔
      IsLeast (spellings isClose unknown candidates name) name := by
  have hdistance : ∀ a ∈ entries isClose unknown candidates,
      ∀ b ∈ entries isClose unknown candidates, a.lowered = b.lowered →
        a.distance = b.distance := by
    intro a ha b hb h
    rw [(mem_entries_iff.mp ha).2.2, (mem_entries_iff.mp hb).2.2] at h ⊢
    simp only [Scored.ofName, distanceTo] at h ⊢
    rw [h]
  have hprecedes : ∀ {s : String}, Text.lower s = Text.lower name →
      ((Scored.ofName unknown name).precedes (.ofName unknown s) = true ↔ name ≤ s) := by
    intro s hs
    simp [Scored.precedes_iff, Scored.Before, Scored.ofName, distanceTo, hs]
  rw [Scored.mem_dropVariants_iff pairwise_entries hdistance, mem_entries_iff]
  constructor
  · rintro ⟨⟨hname, hqualifies, -⟩, hleast⟩
    refine ⟨⟨hname, hqualifies, rfl⟩, ?_⟩
    rintro s ⟨hs, hsqualifies, hvariant⟩
    apply (hprecedes hvariant).mp
    exact hleast _ (mem_entries_iff.mpr ⟨hs, hsqualifies, rfl⟩) hvariant
  · rintro ⟨⟨hname, hqualifies, -⟩, hleast⟩
    refine ⟨⟨hname, hqualifies, rfl⟩, fun b hb hvariant => ?_⟩
    obtain ⟨hbname, hbqualifies, hb⟩ := mem_entries_iff.mp hb
    rw [hb] at hvariant ⊢
    exact (hprecedes hvariant).mpr (hleast ⟨hbname, hbqualifies, hvariant⟩)

/-- The names of the entries that are kept are the ranking. -/
theorem isRanking_dropVariants :
    IsRanking isClose unknown candidates
      ((Scored.dropVariants (entries isClose unknown candidates)).map (·.name)) := by
  have hentry : ∀ s ∈ Scored.dropVariants (entries isClose unknown candidates),
      s = .ofName unknown s.name := fun s hs =>
    (mem_entries_iff.mp ((Scored.dropVariants_sublist _).subset hs)).2.2
  constructor
  · intro name
    rw [← ofName_mem_dropVariants_iff, List.mem_map]
    constructor
    · rintro ⟨s, hs, rfl⟩
      exact hentry s hs ▸ hs
    · intro h
      exact ⟨_, h, rfl⟩
  · apply List.pairwise_map.mpr
    apply (Scored.pairwise_dropVariants pairwise_entries).imp_of_mem
    intro a b ha hb hbefore
    rw [hentry a ha, hentry b hb] at hbefore
    exact Scored.before_ofName_iff.mp hbefore

/-- The suggestions for an unknown name are the first names of its ranking: of every name that may
be meant the smallest spelling, strictly ordered by the least number of edits and then by the form
in lower case. There is one ranking, and it depends on the set of candidates only. -/
theorem suggestBy_eq_take_ranking (isClose : String → String → Bool) (unknown : String)
    (candidates : List String) :
    ∃ names, IsRanking isClose unknown candidates names ∧
      (∀ names', IsRanking isClose unknown candidates names' → names' = names) ∧
      (∀ limit, suggestBy isClose unknown candidates limit = names.take limit) ∧
      ∀ candidates', (∀ s, s ∈ candidates' ↔ s ∈ candidates) →
        ∀ limit, suggestBy isClose unknown candidates' limit = names.take limit := by
  have hranking : IsRanking isClose unknown candidates _ := isRanking_dropVariants
  refine ⟨_, hranking, fun names' h => hranking.unique h fun _ => Iff.rfl, suggestBy_eq_take,
    fun candidates' hmem limit => ?_⟩
  rw [suggestBy_eq_take, hranking.unique isRanking_dropVariants hmem]

end QueryAssist.Spelling
