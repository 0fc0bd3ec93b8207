import Mathlib.Data.List.Nodup
import QueryAssist.Proofs.Line.Context
import QueryAssist.Proofs.Pattern.TrailingRun

/-!
# The word being typed

The word being typed is the longest run of its class at the end of the line: in a resource type that
is so because what has to stand in front of it ends in a character of another class, and everywhere
else because the leftmost match of a run is the longest one. What the kind of position asks for in
front of the word stands right there, so the word and the classification agree on where it begins.

## Main results

* `isFoundIn_of_ofLineStart_eq` — the pattern of the kind of a position is found before it
* `exists_eq_append_partialWord` — the word being typed in a resource type, and what stands before it
* `isTrailingRun_partialWord` — the word being typed is the longest run, behind what its kind asks for
-/

namespace QueryAssist.Context

open Text Pattern

variable {p s after : List Char} {kind : Context} {as : List Pattern}

/-! ### The patterns of the kinds -/

theorem nodup_map_fst_patterns : (patterns.map (·.1)).Nodup := by decide

/-- The pattern of the kind of a position is found in the text before it. -/
theorem isFoundIn_of_ofLineStart_eq {a : Pattern} (ha : (kind, a) ∈ patterns)
    (h : ofLineStart p = kind) : a.isFoundIn p = true := by
  rw [ofLineStart] at h
  cases hfind : patterns.find? fun k => k.2.isFoundIn p with
  | none =>
    -- where no pattern is found the kind is one that has none
    rw [hfind] at h
    subst h
    have hother : other ∉ patterns.map (·.1) := by decide
    exact (hother (List.mem_map_of_mem ha)).elim
  | some k =>
    rw [hfind] at h
    have hk : k = (kind, a) :=
      List.inj_on_of_nodup_map nodup_map_fst_patterns (List.mem_of_find?_eq_some hfind) ha h
    have hfound := List.find?_some hfind
    rwa [hk] at hfound

/-! ### Where the word stands -/

theorem exists_append_of_readBackwards_equality (h : ReadBackwards (equality :: as) s after) :
    ∃ front op, s = front ++ op ∧ (op = "==".toList ∨ op = "=~".toList) := by
  obtain ⟨front, op, rfl, hop | hop, -⟩ := h
  all_goals
    obtain ⟨l₁, l₂, rfl, hl₁, hl₂⟩ := hop
    obtain rfl := reads_char.mp hl₁
    obtain rfl := reads_char.mp hl₂
  · exact ⟨front, _, rfl, Or.inl (by decide)⟩
  · exact ⟨front, _, rfl, Or.inr (by decide)⟩

/-- In front of a resource type stand an operator, blanks, and at most one quote. -/
theorem exists_append_of_readBackwards_beforeResourceType
    (h : ReadBackwards beforeResourceType s after) :
    ∃ front op b, ∃ quote : Option Char, (op = "==".toList ∨ op = "=~".toList) ∧ IsBlankText b ∧
      (∀ c ∈ quote, isQuote c = true) ∧ s = front ++ op ++ b ++ quote.toList := by
  obtain ⟨-, q, rfl, hq, front, b, rfl, hb, hback⟩ := h
  obtain ⟨front, op, rfl, hop⟩ := exists_append_of_readBackwards_equality hback
  rcases reads_optional.mp hq with ⟨c, hc, rfl⟩ | rfl
  · refine ⟨front, op, b, some c, hop, hb, ?_, rfl⟩
    rintro d ⟨⟩
    exact hc
  · exact ⟨front, op, b, none, hop, hb, by simp, rfl⟩

/-- In a resource type the word being typed is what stands behind the test of the type. -/
theorem exists_eq_append_partialWord (h : resourceTypePattern.isFoundIn p = true) :
    ∃ front, p = front ++ partialWord p resourceTypeLiteral ∧
      ReadBackwards beforeResourceType front (partialWord p resourceTypeLiteral) ∧
        ∀ c ∈ partialWord p resourceTypeLiteral, isResourcePath c = true := by
  have hgroup : ∃ front v, p = front ++ v ∧ ReadBackwards beforeResourceType front v ∧
      (run isResourcePath).Reads front v [] ∧ resourceTypePattern.findGroup? 1 p = some v :=
    exists_findGroup?_eq_some h
  obtain ⟨front, v, hp, hback, hv, htyped⟩ := hgroup
  have hword : partialWord p resourceTypeLiteral = v := by
    rw [partialWord, if_pos rfl, htyped, Option.some_or, Option.getD_some]
  rw [hword]
  exact ⟨front, hp, hback, hv⟩

theorem isTrailingRun_partialWord_of_isFoundIn (h : resourceTypePattern.isFoundIn p = true) :
    IsTrailingRun isResourcePath p (partialWord p resourceTypeLiteral) := by
  obtain ⟨front, hp, hback, hall⟩ := exists_eq_append_partialWord h
  obtain ⟨d, hd, hdpath⟩ := endIn_beforeResourceType front _ hback
  have hfront : ∀ c ∈ front.getLast?, isResourcePath c = false := by
    intro c hc
    rwa [Option.mem_unique hc hd]
  have hrun := isTrailingRun_append hall hfront
  rwa [← hp] at hrun

/-- Anywhere else it is what a search for the last word finds. -/
theorem isTrailingRun_partialWord_of_not
    (h : ¬ (kind = resourceTypeLiteral ∧ resourceTypePattern.isFoundIn p = true)) :
    IsTrailingRun isHyphenated p (partialWord p kind) := by
  obtain ⟨m, hm, hrun⟩ := isTrailingRun_find? isHyphenated p
  have htyped : (if kind = resourceTypeLiteral then resourceTypePattern.findGroup? 1 p else none) =
      none := by
    split
    · rename_i hkind
      have hnone : resourceTypePattern.find? p = none := by
        rw [← Option.not_isSome_iff_eq_none]
        exact fun hfound => h ⟨hkind, hfound⟩
      rw [findGroup?, hnone, Option.bind_none]
    · rfl
  rw [partialWord, htyped, Option.none_or, trailingWordPattern, hm, Option.map_some,
    Option.getD_some]
  exact hrun

/-- Behind a pipe stand blanks and the word being typed. -/
theorem exists_eq_append_of_followsPipe (h : followsPipe p = true) :
    ∃ front b, IsBlankText b ∧ p = front ++ '|' :: b ++ p.rtakeWhile isHyphenated := by
  rw [followsPipe, beq_iff_eq] at h
  obtain ⟨front, hfront⟩ := List.getLast?_eq_some_iff.mp h
  obtain ⟨b, hb, hsplit⟩ := exists_eq_trimEnd_append (p.rdropWhile isHyphenated)
  refine ⟨front, b, hb, ?_⟩
  calc
    p = p.rdropWhile isHyphenated ++ p.rtakeWhile isHyphenated :=
      List.rdropWhile_append_rtakeWhile.symm
    _ = front ++ ['|'] ++ b ++ p.rtakeWhile isHyphenated := by rw [hsplit, hfront]
    _ = front ++ '|' :: b ++ p.rtakeWhile isHyphenated := by rw [List.append_cons front '|' b]

/-- The word being typed is the longest run at the end of the text before the cursor. Behind a pipe
it stands behind the pipe and blanks; in a resource type it stands behind the operator, blanks and
at most one quote. -/
theorem isTrailingRun_partialWord (p : List Char) :
    (∀ kind, IsTrailingRun
      (if kind = resourceTypeLiteral ∧ resourceTypePattern.isFoundIn p = true then isResourcePath
        else isHyphenated) p (partialWord p kind)) ∧
      (ofLineStart p = afterPipe → ∃ front b, IsBlankText b ∧
        p = front ++ '|' :: b ++ partialWord p (ofLineStart p)) ∧
      (ofLineStart p = resourceTypeLiteral → ∃ front op b, ∃ quote : Option Char,
        (op = "==".toList ∨ op = "=~".toList) ∧ IsBlankText b ∧ (∀ c ∈ quote, isQuote c = true) ∧
          p = front ++ op ++ b ++ quote.toList ++ partialWord p (ofLineStart p)) := by
  have hrun : ∀ kind, IsTrailingRun
      (if kind = resourceTypeLiteral ∧ resourceTypePattern.isFoundIn p = true then isResourcePath
        else isHyphenated) p (partialWord p kind) := by
    intro kind
    split
    · rename_i h
      obtain ⟨rfl, hfound⟩ := h
      exact isTrailingRun_partialWord_of_isFoundIn hfound
    · rename_i h
      exact isTrailingRun_partialWord_of_not h
  refine ⟨hrun, fun hkind => ?_, fun hkind => ?_⟩
  · -- the pattern of the kind passes the same run
    have hpipe : followsPipe p = true := by
      rw [← isFoundIn_afterPipePattern]
      exact isFoundIn_of_ofLineStart_eq (by simp [patterns]) hkind
    have hword := (hrun afterPipe).eq_rtakeWhile
    have hother : afterPipe ≠ resourceTypeLiteral := by decide
    rw [if_neg fun h => hother h.1] at hword
    rw [hkind, hword]
    exact exists_eq_append_of_followsPipe hpipe
  · have hfound : resourceTypePattern.isFoundIn p = true :=
      isFoundIn_of_ofLineStart_eq (by simp [patterns]) hkind
    obtain ⟨front, hp, hback, -⟩ := exists_eq_append_partialWord hfound
    obtain ⟨front, op, b, quote, hop, hb, hquote, rfl⟩ :=
      exists_append_of_readBackwards_beforeResourceType hback
    rw [hkind]
    exact ⟨front, op, b, quote, hop, hb, hquote, hp⟩

/-- The second of two tests of the type, with a word that is not the last run of hyphens and word
characters, and an operator behind a pipe. -/
theorem isTrailingRun_partialWord_typeTestAndPipe :
    let p := "| where type == 'a' or TYPE =~ \"net/lb-".toList
    let p' := "Logs | ta".toList
    (ofLineStart p = resourceTypeLiteral ∧ partialWord p (ofLineStart p) = "net/lb-".toList ∧
      ∃ front op b, ∃ quote : Option Char, (op = "==".toList ∨ op = "=~".toList) ∧ IsBlankText b ∧
        (∀ c ∈ quote, isQuote c = true) ∧
          p = front ++ op ++ b ++ quote.toList ++ partialWord p (ofLineStart p)) ∧
      ofLineStart p' = afterPipe ∧ ∃ front b, IsBlankText b ∧
        p' = front ++ '|' :: b ++ partialWord p' (ofLineStart p') := by
  intro p p'
  have hp : ofLineStart p = resourceTypeLiteral := by decide +kernel
  have hp' : ofLineStart p' = afterPipe := by decide +kernel
  have hword : partialWord p (ofLineStart p) = "net/lb-".toList := by decide +kernel
  exact ⟨⟨hp, hword, (isTrailingRun_partialWord p).2.2 hp⟩, hp',
    (isTrailingRun_partialWord p').2.1 hp'⟩

end QueryAssist.Context
