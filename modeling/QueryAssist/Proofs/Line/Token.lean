import QueryAssist.Proofs.Line.Name

/-!
# Tokens divide a line

The name around a name character is scanned in both directions, and a `!` before it and a `~` behind
it are taken in. The scans find the widest name around the character, so they find the same name
from each of its characters, and a cursor anywhere on a token finds the same token. Tokens that are
found in one line are equal or apart. The pattern that has to fit a token in the end turns away only
characters that are numeric but no word characters.

## Main definitions

* `Token.IsWidestName` — a name around a column that contains every other one around it
* `Token.IsTokenOf` — a token as a stretch of a line

## Main results

* `isWidestName_nameLength` — the scans find the widest name
* `hasForm_extract_iff` — a stretch of the form of tokens is a name with what stands beside it
* `exists_anchor?` — each column of a token refers to one of its name characters
* `isTokenOf_of_at?`, `IsTokenOf.at?_eq` — what is found is a token, and tokens are found
* `at?_partitions` — what a token is, and that tokens divide the line
-/

namespace QueryAssist.Token

variable {c d : Char} {l p q : List Char} {n column anchor start stop start' stop' : Nat}
  {t t' : Token}

/-! ### Columns of a line -/

theorem lt_length_of_drop_eq_cons (h : l.drop column = c :: q) : column < l.length := by
  by_contra hge
  rw [List.drop_eq_nil_of_le (not_lt.mp hge)] at h
  cases h

theorem drop_eq_cons_of_getElem? (h : l[column]? = some c) :
    l.drop column = c :: l.drop (column + 1) := by
  obtain ⟨hlt, rfl⟩ := List.getElem?_eq_some_iff.mp h
  exact List.drop_eq_getElem_cons hlt

theorem extract_append_extract (h : start ≤ column) (h' : column ≤ stop) :
    l.extract start column ++ l.extract column stop = l.extract start stop := by
  have hdrop : l.drop column = (l.drop start).drop (column - start) := by
    rw [List.drop_drop, Nat.add_sub_cancel' h]
  have hlength : stop - start = (column - start) + (stop - column) := by omega
  simp only [List.extract_eq_take_drop]
  rw [hdrop, hlength, List.take_add]

theorem length_extract_of_le (hle : stop ≤ l.length) :
    (l.extract start stop).length = stop - start := by
  rw [List.extract_eq_take_drop, List.length_take, List.length_drop]
  omega

theorem extract_self (l : List Char) (column : Nat) : l.extract column column = [] := by
  rw [List.extract_eq_take_drop, Nat.sub_self, List.take_zero]

theorem extract_succ_eq_singleton :
    l.extract column (column + 1) = [c] ↔ l[column]? = some c := by
  rw [List.extract_eq_take_drop, Nat.add_sub_cancel_left, ← List.head?_drop]
  cases l.drop column <;> simp

/-- Where a stretch is put together from two lists, the second one begins at a column of its own. -/
theorem extract_eq_append (hlt : start ≤ stop) (hle : stop ≤ l.length)
    (h : l.extract start stop = p ++ q) :
    start + p.length ≤ stop ∧ l.extract start (start + p.length) = p ∧
      l.extract (start + p.length) stop = q := by
  have hlength := congrArg List.length h
  rw [length_extract_of_le hle, List.length_append] at hlength
  have hmid : start + p.length ≤ stop := by omega
  rw [← extract_append_extract (Nat.le_add_right start p.length) hmid] at h
  have hp : (l.extract start (start + p.length)).length = p.length := by
    rw [length_extract_of_le (hmid.trans hle), Nat.add_sub_cancel_left]
  exact ⟨hmid, List.append_inj h hp⟩

/-- A stretch of the line, read to both sides from one of its columns. -/
theorem extract_eq_around (hstart : start ≤ column) (hstop : column < stop)
    (h : l.drop column = c :: q) :
    l.extract start stop =
      ((l.take column).reverse.take (column - start)).reverse ++
        c :: q.take (stop - column - 1) := by
  have hlt := lt_length_of_drop_eq_cons h
  have hlength : stop - column = stop - column - 1 + 1 := by omega
  have hbefore : l.extract start column =
      ((l.take column).reverse.take (column - start)).reverse := by
    rw [List.extract_eq_take_drop, List.take_reverse, List.reverse_reverse,
      List.length_take_of_le hlt.le, Nat.sub_sub_self hstart, List.drop_take]
  have hafter : l.extract column stop = c :: q.take (stop - column - 1) := by
    rw [List.extract_eq_take_drop, h, hlength, List.take_succ_cons, Nat.add_sub_cancel]
  rw [← extract_append_extract hstart hstop.le, hbefore, hafter]

/-! ### The widest name around a column -/

/-- The columns from `start` to `stop`, the latter excluded, hold a name with `column` in it, and
any name with that column in it lies between them. -/
structure IsWidestName (l : List Char) (column start stop : Nat) : Prop where
  start_le : start ≤ column
  lt_stop : column < stop
  stop_le : stop ≤ l.length
  isName : IsName (l.extract start stop)
  widest : ∀ {start' stop' : Nat}, start' ≤ column → column < stop' → stop' ≤ l.length →
    IsName (l.extract start' stop') → start ≤ start' ∧ stop' ≤ stop

/-- The scans to both sides of a name character find the widest name around it. -/
theorem isWidestName_nameLength (h : beginsName (l.drop column) = true) :
    IsWidestName l column (column - nameLength (l.take column).reverse)
      (column + nameLength (l.drop column)) := by
  obtain ⟨c, rest, hafter, hc⟩ := beginsName_iff.mp h
  have hlt := lt_length_of_drop_eq_cons hafter
  have hbefore : (l.take column).reverse.length = column := by
    rw [List.length_reverse, List.length_take_of_le hlt.le]
  have hrest : rest.length = l.length - column - 1 := by
    rw [← List.length_drop, hafter, List.length_cons, Nat.add_sub_cancel]
  have hleft := nameLength_le_length (l.take column).reverse
  have hright := nameLength_le_length rest
  rw [hbefore] at hleft
  -- a stretch around the column is a name if both of its sides are, and each scan reads one side
  have hsplit {start stop : Nat} (hstart : start ≤ column) (hstop : column < stop) :
      IsName (l.extract start stop) ↔
        IsName (c :: (l.take column).reverse.take (column - start)) ∧
          IsName (c :: rest.take (stop - column - 1)) := by
    rw [extract_eq_around hstart hstop hafter, isName_reverse_append_cons hc]
  rw [hafter, nameLength_cons hc]
  refine ⟨Nat.sub_le _ _, by omega, by omega, ?_, ?_⟩
  · rw [hsplit (Nat.sub_le _ _) (by omega), Nat.sub_sub_self hleft, Nat.add_sub_cancel_left,
      Nat.add_sub_cancel]
    exact ⟨isName_cons_take_nameLength hc _, isName_cons_take_nameLength hc _⟩
  · intro start stop hstart hstop hle hname
    obtain ⟨hnameleft, hnameright⟩ := (hsplit hstart hstop).mp hname
    have hleft' := le_nameLength_of_isName_cons hc (by omega) hnameleft
    have hright' := le_nameLength_of_isName_cons hc (by omega) hnameright
    omega

/-- The widest names around two columns are the same if one of them contains both columns. -/
theorem IsWidestName.eq_of_mem (h : IsWidestName l column start stop)
    (h' : IsWidestName l anchor start' stop') (hle : start ≤ anchor) (hlt : anchor < stop) :
    start' = start ∧ stop' = stop := by
  -- the second name contains the first one, so it contains both columns as well
  obtain ⟨hstart, hstop⟩ := h'.widest hle hlt h.stop_le h.isName
  obtain ⟨hstart', hstop'⟩ := h.widest (hstart.trans h.start_le) (h.lt_stop.trans_le hstop)
    h'.stop_le h'.isName
  exact ⟨hstart.antisymm hstart', hstop'.antisymm hstop⟩

theorem IsWidestName.of_mem (h : IsWidestName l column start stop)
    (hanchor : beginsName (l.drop anchor) = true) (hle : start ≤ anchor) (hlt : anchor < stop) :
    IsWidestName l anchor start stop := by
  have hscan := isWidestName_nameLength hanchor
  obtain ⟨hstart, hstop⟩ := h.eq_of_mem hscan hle hlt
  rwa [hstart, hstop] at hscan

/-! ### Anchors -/

/-- Right before a hyphen of a name stands a name character. -/
theorem beginsName_of_isName_append_hyphen (h : IsName (p.reverse ++ '-' :: q)) :
    beginsName p = true := by
  cases p with
  | nil => simpa using h.beginsName
  | cons c p =>
    have hchain := h.isChain
    rw [List.reverse_cons, List.append_assoc, List.singleton_append,
      List.isChain_append_cons_cons] at hchain
    exact isNameChar_of_joins_hyphen hchain.2.1

/-- In a column of a name stands a name character, or a hyphen with a name character before it that
is in the name as well. -/
theorem exists_drop_eq_cons_of_isName (hstart : start ≤ column) (hstop : column < stop)
    (hle : stop ≤ l.length) (h : IsName (l.extract start stop)) :
    ∃ c rest, l.drop column = c :: rest ∧
      (isNameChar c = true ∨
        c = '-' ∧ start < column ∧ beginsName (l.take column).reverse = true) := by
  have hdrop := List.drop_eq_getElem_cons (hstop.trans_le hle)
  refine ⟨_, _, hdrop, ?_⟩
  rw [extract_eq_around hstart hstop hdrop] at h
  refine (h.of_mem List.mem_append_cons_self).imp_right fun hhyphen => ⟨hhyphen, ?_⟩
  rw [hhyphen] at h
  have hbefore := beginsName_of_isName_append_hyphen h
  refine ⟨?_, beginsName_of_isPrefix (List.take_prefix _ _) hbefore⟩
  by_contra hge
  rw [Nat.sub_eq_zero_of_le (not_lt.mp hge)] at hbefore
  cases hbefore

theorem anchor?_of_beginsName (h : beginsName q = true) :
    anchor? column p q = some column := if_pos h

theorem anchor?_bang (h : beginsName q = true) :
    anchor? column p ('!' :: q) = some (column + 1) := by
  simp [anchor?, h]

/-- Where no name and no `!` begins, a name character right before is referred to. -/
theorem anchor?_before (hc : isNameChar c = false) (hbang : c ≠ '!') (h : beginsName p = true) :
    anchor? column p (c :: q) = some (column - 1) := by
  simp [anchor?, hc, hbang, h]

theorem reverse_take_succ (h : l.drop column = c :: q) :
    (l.take (column + 1)).reverse = c :: (l.take column).reverse := by
  have hget : l[column]? = some c := by rw [← List.head?_drop, h, List.head?_cons]
  rw [List.take_add_one, hget, Option.toList_some, List.reverse_append]
  rfl

/-- The character right before a column stands in the column before. -/
theorem exists_drop_eq_cons_of_reverse_take (hcolumn : column ≤ l.length)
    (h : (l.take column).reverse = c :: p) :
    ∃ k rest, column = k + 1 ∧ l.drop k = c :: rest ∧ (l.take k).reverse = p := by
  cases column with
  | zero => cases h
  | succ k =>
    have hdrop := List.drop_eq_getElem_cons hcolumn
    rw [reverse_take_succ hdrop] at h
    obtain ⟨rfl, rfl⟩ := List.cons_eq_cons.mp h
    exact ⟨k, _, rfl, hdrop, rfl⟩

/-- An anchor is a column with a name character: the cursor's, the one behind a `!` at the cursor,
the one before the cursor, or the one before a `~` that is before the cursor. -/
theorem of_anchor?_eq_some (hcolumn : column ≤ l.length)
    (h : anchor? column (l.take column).reverse (l.drop column) = some anchor) :
    beginsName (l.drop anchor) = true ∧
      (anchor = column ∨ anchor = column + 1 ∧ l[column]? = some '!' ∨
        column = anchor + 1 ∨ column = anchor + 2 ∧ l[anchor + 1]? = some '~') := by
  unfold anchor? at h
  -- the four rules one after the other
  split at h
  case isTrue hname =>
    obtain rfl := Option.some.inj h
    exact ⟨hname, Or.inl rfl⟩
  split at h
  case isTrue hname =>
    obtain rfl := Option.some.inj h
    rw [List.head?_drop, List.tail_drop, Bool.and_eq_true, beq_iff_eq] at hname
    exact ⟨hname.2, Or.inr (Or.inl ⟨rfl, hname.1⟩)⟩
  split at h
  case isTrue hname =>
    obtain rfl := Option.some.inj h
    obtain ⟨c, rest, htake, hc⟩ := beginsName_iff.mp hname
    obtain ⟨k, rest, rfl, hdrop, -⟩ := exists_drop_eq_cons_of_reverse_take hcolumn htake
    exact ⟨by rwa [Nat.add_sub_cancel, hdrop], Or.inr (Or.inr (Or.inl rfl))⟩
  split at h
  case isTrue hname =>
    obtain rfl := Option.some.inj h
    rw [Bool.and_eq_true, beq_iff_eq, List.head?_eq_some_iff] at hname
    obtain ⟨⟨p, htake⟩, hp⟩ := hname
    rw [htake, List.tail_cons] at hp
    obtain ⟨k, rest, rfl, htilde, hbefore⟩ := exists_drop_eq_cons_of_reverse_take hcolumn htake
    obtain ⟨c, p', rfl, hc⟩ := beginsName_iff.mp hp
    have hk := (lt_length_of_drop_eq_cons htilde).le
    obtain ⟨m, rest', rfl, hdrop, -⟩ := exists_drop_eq_cons_of_reverse_take hk hbefore
    rw [Nat.add_sub_cancel (n := m) (m := 2), hdrop]
    refine ⟨hc, Or.inr (Or.inr (Or.inr ⟨rfl, ?_⟩))⟩
    rw [← List.head?_drop, htilde, List.head?_cons]
  case isFalse => cases h

/-! ### What stands beside a name -/

/-- From `start'` on stands what stands from `start` on, perhaps with a `!` before it. -/
def AddsBang (l : List Char) (start' start : Nat) : Prop :=
  start' = start ∨ start = start' + 1 ∧ l[start']? = some '!'

/-- Up to `stop'` stands what stands up to `stop`, perhaps with a `~` behind it. -/
def AddsTilde (l : List Char) (stop stop' : Nat) : Prop :=
  stop' = stop ∨ stop' = stop + 1 ∧ l[stop]? = some '~'

/-- Where a name from `start` on begins with the `!` that is right before it, if there is one. -/
def withBang (l : List Char) (start : Nat) : Nat :=
  start - if (l.take start).getLast? = some '!' then 1 else 0

/-- Where a name up to `stop` ends with the `~` that is right behind it, if there is one. -/
def withTilde (l : List Char) (stop : Nat) : Nat :=
  stop + if (l.drop stop).head? = some '~' then 1 else 0

theorem getLast?_take_eq_bang (hstart : start ≤ l.length) :
    (l.take start).getLast? = some '!' ↔ ∃ k, start = k + 1 ∧ l[k]? = some '!' := by
  cases start with
  | zero => simp
  | succ k =>
    have hget : (l.take (k + 1)).getLast? = l[k]? := by
      rw [List.take_add_one, List.getElem?_eq_getElem hstart, Option.toList_some,
        List.getLast?_concat]
    simp [hget]

theorem addsBang_withBang (hstart : start ≤ l.length) : AddsBang l (withBang l start) start := by
  unfold withBang
  split
  case isTrue h =>
    obtain ⟨k, rfl, hbang⟩ := (getLast?_take_eq_bang hstart).mp h
    exact Or.inr ⟨rfl, hbang⟩
  case isFalse => exact Or.inl rfl

/-- A name that begins no earlier does not begin earlier with a `!` either. -/
theorem AddsBang.withBang_le (h : AddsBang l start' start) (hle : n ≤ start) (hn : n ≤ l.length) :
    withBang l n ≤ start' := by
  have hsub : withBang l n ≤ n := Nat.sub_le _ _
  rcases h with rfl | ⟨rfl, hbang⟩
  · exact hsub.trans hle
  · rcases hle.lt_or_eq with hlt | rfl
    · exact hsub.trans (Nat.lt_succ_iff.mp hlt)
    · rw [withBang, if_pos ((getLast?_take_eq_bang hn).mpr ⟨start', rfl, hbang⟩)]
      exact le_rfl

theorem addsTilde_withTilde (l : List Char) (stop : Nat) : AddsTilde l stop (withTilde l stop) := by
  unfold withTilde
  split
  case isTrue h => exact Or.inr ⟨rfl, List.head?_drop.symm.trans h⟩
  case isFalse => exact Or.inl rfl

/-- A name that ends no later does not end later with a `~` either. -/
theorem AddsTilde.le_withTilde (h : AddsTilde l stop stop') (hle : stop ≤ n) :
    stop' ≤ withTilde l n := by
  have hadd : n ≤ withTilde l n := Nat.le_add_right _ _
  rcases h with rfl | ⟨rfl, htilde⟩
  · exact hle.trans hadd
  · rcases hle.lt_or_eq with hlt | rfl
    · exact (Nat.succ_le_of_lt hlt).trans hadd
    · rw [withTilde, if_pos (List.head?_drop.trans htilde)]

theorem AddsBang.le (h : AddsBang l start' start) : start' ≤ start := by
  rcases h with rfl | ⟨rfl, -⟩
  · exact le_rfl
  · exact Nat.le_succ start'

theorem AddsTilde.le (h : AddsTilde l stop stop') : stop ≤ stop' := by
  rcases h with rfl | ⟨rfl, -⟩
  · exact le_rfl
  · exact Nat.le_succ stop

theorem withTilde_le_length (hle : stop ≤ l.length) : withTilde l stop ≤ l.length := by
  rcases addsTilde_withTilde l stop with hsame | ⟨hsucc, htilde⟩
  · rwa [hsame]
  · rw [hsucc]
    exact (List.getElem?_eq_some_iff.mp htilde).1

theorem AddsBang.le_anchor (h : AddsBang l start' start) (hle : start' ≤ anchor)
    (hanchor : beginsName (l.drop anchor) = true) : start ≤ anchor := by
  rcases h with rfl | ⟨rfl, hbang⟩
  · exact hle
  · refine Nat.succ_le_of_lt (hle.lt_of_ne ?_)
    rintro rfl
    simp [drop_eq_cons_of_getElem? hbang] at hanchor

theorem AddsTilde.anchor_lt (h : AddsTilde l stop stop') (hlt : anchor < stop')
    (hanchor : beginsName (l.drop anchor) = true) : anchor < stop := by
  rcases h with rfl | ⟨rfl, htilde⟩
  · exact hlt
  · refine (Nat.lt_succ_iff.mp hlt).lt_of_ne ?_
    rintro rfl
    simp [drop_eq_cons_of_getElem? htilde] at hanchor

/-- A stretch of the form of tokens is a name with what stands beside it. -/
theorem hasForm_extract_iff (hle : stop' ≤ l.length) :
    HasForm (l.extract start' stop') ↔
      ∃ start stop, start < stop ∧ IsName (l.extract start stop) ∧ AddsBang l start' start ∧
        AddsTilde l stop stop' := by
  constructor
  · rintro ⟨bang, name, tilde, hbang, hname, htilde, htext⟩
    have hpos := List.length_pos_iff.mpr hname.ne_nil
    have hlength := congrArg List.length htext
    rw [length_extract_of_le hle, List.length_append, List.length_append] at hlength
    rw [List.append_assoc] at htext
    -- the name begins where the `!` ends, and it ends where the `~` begins
    obtain ⟨hmid, hbang', htext⟩ := extract_eq_append (by omega) hle htext
    obtain ⟨hmid', hname', htilde'⟩ := extract_eq_append hmid hle htext
    refine ⟨_, _, Nat.lt_add_of_pos_right hpos, hname'.symm ▸ hname, ?_, ?_⟩
    · rcases hbang with rfl | rfl
      · exact Or.inl rfl
      · exact Or.inr ⟨rfl, extract_succ_eq_singleton.mp hbang'⟩
    · rcases htilde with rfl | rfl
      · exact Or.inl (by rw [List.length_nil] at hlength; omega)
      · obtain rfl : stop' = start' + bang.length + name.length + 1 := by
          rw [List.length_singleton] at hlength
          omega
        exact Or.inr ⟨rfl, extract_succ_eq_singleton.mp htilde'⟩
  · rintro ⟨start, stop, hlt, hname, hbang, htilde⟩
    refine ⟨l.extract start' start, l.extract start stop, l.extract stop stop', ?_, hname, ?_, ?_⟩
    · rcases hbang with rfl | ⟨rfl, hbang⟩
      · exact Or.inl (extract_self l start')
      · exact Or.inr (extract_succ_eq_singleton.mpr hbang)
    · rcases htilde with rfl | ⟨rfl, htilde⟩
      · exact Or.inl (extract_self l stop')
      · exact Or.inr (extract_succ_eq_singleton.mpr htilde)
    · rw [extract_append_extract hbang.le hlt.le,
        extract_append_extract (hbang.le.trans hlt.le) htilde.le]

/-! ### Tokens around names -/

/-- The name between two columns, with the `!` and the `~` beside it. -/
def decorated (l : List Char) (start stop : Nat) : Token :=
  ⟨String.ofList (l.extract (withBang l start) (withTilde l stop)), withBang l start,
    withTilde l stop⟩

/-- The token, if the pattern for tokens fits it and it contains a letter. -/
def accepted? (t : Token) : Option Token :=
  if shape.isFoundIn t.text.toList && t.text.toList.any Text.isAlphabetic then some t else none

theorem of_accepted?_eq_some (h : t.accepted? = some t') :
    t' = t ∧ ∃ c ∈ t.text.toList, Text.isAlphabetic c = true := by
  unfold accepted? at h
  split at h
  case isTrue hshape =>
    exact ⟨(Option.some.inj h).symm, List.any_eq_true.mp (Bool.and_eq_true_iff.mp hshape).2⟩
  case isFalse => cases h

/-- What is found around an anchor is the widest name around it, decorated. -/
theorem around?_eq (hanchor : beginsName (l.drop anchor) = true)
    (h : IsWidestName l anchor start stop) :
    around? l anchor = (decorated l start stop).accepted? := by
  have hscan := isWidestName_nameLength hanchor
  obtain ⟨hstart, hstop⟩ := h.eq_of_mem hscan h.start_le h.lt_stop
  have hlength : (l.take anchor).length = anchor :=
    List.length_take_of_le (h.lt_stop.trans_le h.stop_le).le
  have hleft : ((l.take anchor).reverse.drop (nameLength (l.take anchor).reverse)).head? =
      (l.take start).getLast? := by
    rw [List.drop_reverse, List.head?_reverse, hlength, hstart, List.take_take,
      min_eq_left h.start_le]
  have hright : ((l.drop anchor).drop (nameLength (l.drop anchor))).head? =
      (l.drop stop).head? := by
    rw [List.drop_drop, hstop]
  simp only [around?, hleft, hright, hstart, hstop, accepted?, decorated, withBang, withTilde,
    String.toList_ofList, List.extract_eq_take_drop]

theorem beginsName_drop_of_isName (h : IsName (l.extract start stop)) :
    beginsName (l.drop start) = true :=
  beginsName_of_isPrefix (List.take_prefix _ _) h.beginsName

theorem beginsName_reverse_take_of_isName (h : IsName (l.extract start stop)) :
    beginsName (l.take stop).reverse = true := by
  have hsuffix : l.extract start stop <:+ l.take stop := by
    rw [List.extract_eq_take_drop, ← List.drop_take]
    exact List.drop_suffix start _
  exact beginsName_of_isPrefix (List.reverse_prefix.mpr hsuffix) h.reverse.beginsName

theorem anchor?_eq_pred (h : l.drop column = c :: q) (hc : isNameChar c = false) (hbang : c ≠ '!')
    (hbefore : beginsName (l.take column).reverse = true) :
    anchor? column (l.take column).reverse (l.drop column) = some (column - 1) ∧
      beginsName (l.drop (column - 1)) = true := by
  obtain ⟨d, p, htake, hd⟩ := beginsName_iff.mp hbefore
  obtain ⟨k, rest, rfl, hdrop, -⟩ :=
    exists_drop_eq_cons_of_reverse_take (lt_length_of_drop_eq_cons h).le htake
  rw [h, Nat.add_sub_cancel, hdrop]
  exact ⟨anchor?_before hc hbang hbefore, hd⟩

/-- Every column from the `!` to the `~` refers to a name character of the name. -/
theorem exists_anchor? (hlt : start < stop) (hle : stop ≤ l.length)
    (hname : IsName (l.extract start stop)) (hstart : withBang l start ≤ column)
    (hstop : column < withTilde l stop) :
    ∃ anchor, anchor? column (l.take column).reverse (l.drop column) = some anchor ∧
      start ≤ anchor ∧ anchor < stop ∧ beginsName (l.drop anchor) = true := by
  by_cases hbefore : column < start
  · -- the cursor is at the `!`
    have hname := beginsName_drop_of_isName hname
    rcases addsBang_withBang (hlt.le.trans hle) with hsame | ⟨hsucc, hbang⟩
    · omega
    · obtain rfl : column = withBang l start := by omega
      refine ⟨start, ?_, le_rfl, hlt, hname⟩
      rw [hsucc] at hname
      rw [drop_eq_cons_of_getElem? hbang, anchor?_bang hname, ← hsucc]
  by_cases hbehind : stop ≤ column
  · -- the cursor is at the `~`
    rcases addsTilde_withTilde l stop with hsame | ⟨hsucc, htilde⟩
    · omega
    · obtain rfl : column = stop := by omega
      obtain ⟨hanchor, hbegins⟩ := anchor?_eq_pred (drop_eq_cons_of_getElem? htilde)
        isNameChar_tilde (by decide) (beginsName_reverse_take_of_isName hname)
      exact ⟨column - 1, hanchor, by omega, by omega, hbegins⟩
  · -- the cursor is at a character of the name, a name character or a hyphen
    obtain ⟨c, rest, hdrop, hc | ⟨rfl, hlt', hc⟩⟩ :=
      exists_drop_eq_cons_of_isName (not_lt.mp hbefore) (not_le.mp hbehind) hle hname
    · have hbegins : beginsName (l.drop column) = true := by rwa [hdrop]
      exact ⟨column, anchor?_of_beginsName hbegins, not_lt.mp hbefore, not_le.mp hbehind, hbegins⟩
    · obtain ⟨hanchor, hbegins⟩ := anchor?_eq_pred hdrop isNameChar_hyphen (by decide) hc
      exact ⟨column - 1, hanchor, by omega, by omega, hbegins⟩

/-- At every column of a decorated widest name that name is looked at. -/
theorem IsWidestName.at?_eq (h : IsWidestName l anchor start stop) (hstart : withBang l start ≤ n)
    (hstop : n < withTilde l stop) : at? l n = (decorated l start stop).accepted? := by
  obtain ⟨anchor', hanchor, hle, hlt, hbegins⟩ :=
    exists_anchor? (h.start_le.trans_lt h.lt_stop) h.stop_le h.isName hstart hstop
  have hn : n ≤ l.length := hstop.le.trans (withTilde_le_length h.stop_le)
  rw [at?, min_eq_left hn, hanchor, Option.bind_some,
    around?_eq hbegins (h.of_mem hbegins hle hlt)]

/-- No character of a name is one that is neither a name character nor a hyphen. -/
theorem IsName.stop_le_of_getElem? (h : IsName (l.extract start stop)) (hle : stop ≤ l.length)
    (hget : l[column]? = some c) (hc : isNameChar c = false) (hne : c ≠ '-')
    (hstart : start ≤ column) : stop ≤ column := by
  by_contra hlt
  obtain ⟨d, rest, hdrop, hd⟩ := exists_drop_eq_cons_of_isName hstart (not_le.mp hlt) hle h
  rw [drop_eq_cons_of_getElem? hget] at hdrop
  obtain ⟨rfl, -⟩ := List.cons_eq_cons.mp hdrop
  rcases hd with hd | ⟨hd, -⟩
  · rw [hc] at hd
    cases hd
  · exact hne hd

/-- The cursor stands at a column of the decorated name, or right behind it. -/
theorem mem_decorated_of_anchor? (hcolumn : column ≤ l.length)
    (h : anchor? column (l.take column).reverse (l.drop column) = some anchor)
    (hname : IsWidestName l anchor start stop) :
    withBang l start ≤ column ∧ column ≤ withTilde l stop := by
  have hstart := hname.start_le
  have hstop := hname.lt_stop
  have hle : start ≤ l.length := hstart.trans (hstop.le.trans hname.stop_le)
  have hleft := (addsBang_withBang hle).le
  have hright := (addsTilde_withTilde l stop).le
  obtain ⟨-, rfl | ⟨rfl, hget⟩ | rfl | ⟨rfl, hget⟩⟩ := of_anchor?_eq_some hcolumn h
  · omega
  · -- the `!` at the cursor is not in the name, so the name begins right behind it
    have hbang : AddsBang l column start := by
      refine Or.inr ⟨hstart.antisymm (Nat.succ_le_of_lt (not_le.mp fun hcolumn => ?_)), hget⟩
      have hstop' := hname.isName.stop_le_of_getElem? hname.stop_le hget isNameChar_bang (by decide)
        hcolumn
      omega
    have hbang' := hbang.withBang_le le_rfl hle
    omega
  · omega
  · -- the `~` before the cursor is not in the name, so the name ends right before it
    have hstop' := hname.isName.stop_le_of_getElem? hname.stop_le hget isNameChar_tilde (by decide)
      (hstart.trans (Nat.le_succ anchor))
    have htilde : AddsTilde l stop (anchor + 2) := by
      obtain rfl : stop = anchor + 1 := hstop'.antisymm hstop
      exact Or.inr ⟨rfl, hget⟩
    have htilde' := htilde.le_withTilde le_rfl
    omega

/-- What is found at a column is the widest name around an anchor, decorated. -/
theorem exists_isWidestName_of_at? (h : at? l column = some t) :
    ∃ anchor start stop, beginsName (l.drop anchor) = true ∧ IsWidestName l anchor start stop ∧
      t = decorated l start stop ∧ t.accepted? = some t ∧
      withBang l start ≤ min column l.length ∧ min column l.length ≤ withTilde l stop := by
  obtain ⟨anchor, hanchor, haround⟩ := Option.bind_eq_some_iff.mp h
  have hbegins := (of_anchor?_eq_some (min_le_right _ _) hanchor).1
  have hname := isWidestName_nameLength hbegins
  rw [around?_eq hbegins hname] at haround
  obtain ⟨rfl, -⟩ := of_accepted?_eq_some haround
  exact ⟨anchor, _, _, hbegins, hname, rfl, haround,
    mem_decorated_of_anchor? (min_le_right _ _) hanchor hname⟩

/-! ### Tokens of a line -/

/-- A token of a line: a stretch of the line that has the form of tokens and contains a letter, such
that no longer stretch around it has that form. -/
structure IsTokenOf (t : Token) (l : List Char) : Prop where
  stop_le : t.stop ≤ l.length
  text_eq : t.text.toList = l.extract t.start t.stop
  hasForm : HasForm t.text.toList
  exists_alphabetic : ∃ c ∈ t.text.toList, Text.isAlphabetic c = true
  maximal : ∀ {start stop : Nat}, start ≤ t.start → t.stop ≤ stop → stop ≤ l.length →
    HasForm (l.extract start stop) → start = t.start ∧ stop = t.stop

theorem IsTokenOf.start_lt_stop (h : t.IsTokenOf l) : t.start < t.stop := by
  obtain ⟨bang, name, tilde, -, hname, -, htext⟩ := h.hasForm
  have hpos := List.length_pos_iff.mpr hname.ne_nil
  have hlength := congrArg List.length (h.text_eq.symm.trans htext)
  rw [length_extract_of_le h.stop_le, List.length_append, List.length_append] at hlength
  omega

/-- A stretch around a token that has the form of tokens is the token itself. -/
theorem IsWidestName.eq_withBang_withTilde (h : IsWidestName l anchor start stop)
    (hanchor : beginsName (l.drop anchor) = true) (hstart : start' ≤ withBang l start)
    (hstop : withTilde l stop ≤ stop') (hle : stop' ≤ l.length)
    (hform : HasForm (l.extract start' stop')) :
    start' = withBang l start ∧ stop' = withTilde l stop := by
  obtain ⟨start'', stop'', hlt, hname, hbang, htilde⟩ := (hasForm_extract_iff hle).mp hform
  have hlen : start ≤ l.length := h.start_le.trans (h.lt_stop.le.trans h.stop_le)
  have hfirst : start'' ≤ anchor := by
    refine hbang.le_anchor ?_ hanchor
    exact hstart.trans ((addsBang_withBang hlen).le.trans h.start_le)
  have hlast : anchor < stop'' := by
    refine htilde.anchor_lt ?_ hanchor
    exact h.lt_stop.trans_le ((addsTilde_withTilde l stop).le.trans hstop)
  -- the name in these columns is not wider
  obtain ⟨hwide, hwide'⟩ := h.widest hfirst hlast (htilde.le.trans hle) hname
  exact ⟨hstart.antisymm (hbang.withBang_le hwide hlen),
    (htilde.le_withTilde hwide').antisymm hstop⟩

theorem isTokenOf_of_at? (h : at? l column = some t) : t.IsTokenOf l := by
  obtain ⟨anchor, start, stop, hanchor, hname, rfl, haccepted, -⟩ := exists_isWidestName_of_at? h
  have hlt : start < stop := hname.start_le.trans_lt hname.lt_stop
  have hle : withTilde l stop ≤ l.length := withTilde_le_length hname.stop_le
  have htext : (decorated l start stop).text.toList =
      l.extract (withBang l start) (withTilde l stop) := String.toList_ofList
  refine ⟨hle, htext, ?_, (of_accepted?_eq_some haccepted).2, hname.eq_withBang_withTilde hanchor⟩
  rw [htext]
  exact (hasForm_extract_iff hle).mpr ⟨start, stop, hlt, hname.isName,
    addsBang_withBang (hlt.le.trans hname.stop_le), addsTilde_withTilde l stop⟩

/-- A token that is found is found from each of its columns. -/
theorem at?_eq_of_mem (h : at? l column = some t) (hstart : t.start ≤ n) (hstop : n < t.stop) :
    at? l n = some t := by
  obtain ⟨anchor, start, stop, -, hname, rfl, haccepted, -⟩ := exists_isWidestName_of_at? h
  rw [hname.at?_eq hstart hstop, haccepted]

/-- A token of word characters is found from each of its columns. -/
theorem IsTokenOf.at?_eq (h : t.IsTokenOf l)
    (hword : ∀ c ∈ t.text.toList, isNameChar c = true → Text.isWord c = true)
    (hstart : t.start ≤ n) (hstop : n < t.stop) : at? l n = some t := by
  have hform := h.hasForm
  rw [h.text_eq] at hform
  obtain ⟨start, stop, hlt, hname, hbang, htilde⟩ := (hasForm_extract_iff h.stop_le).mp hform
  obtain ⟨left, right, hwidest⟩ : ∃ left right, IsWidestName l start left right :=
    ⟨_, _, isWidestName_nameLength (beginsName_drop_of_isName hname)⟩
  -- the widest name goes as far as the token, so the token is all of it
  obtain ⟨hleft, hright⟩ := hwidest.widest le_rfl hlt (htilde.le.trans h.stop_le) hname
  have hlen : left ≤ l.length := hleft.trans (hlt.le.trans (htilde.le.trans h.stop_le))
  have hle : withTilde l right ≤ l.length := withTilde_le_length hwidest.stop_le
  obtain ⟨hstart', hstop'⟩ := h.maximal (hbang.withBang_le hleft hlen) (htilde.le_withTilde hright)
    hle ((hasForm_extract_iff hle).mpr ⟨left, right, hleft.trans_lt (hlt.trans_le hright),
      hwidest.isName, addsBang_withBang hlen, addsTilde_withTilde l right⟩)
  have htoken : decorated l left right = t := by
    rw [decorated, hstart', hstop', ← h.text_eq, String.ofList_toList]
  rw [← hstart'] at hstart
  rw [← hstop'] at hstop
  rw [hwidest.at?_eq hstart hstop, htoken, accepted?, isFoundIn_shape h.hasForm hword,
    List.any_eq_true.mpr h.exists_alphabetic]
  rfl

/-- The cursor is at a column of the token that is found, or right behind it. -/
theorem mem_of_at? (h : at? l column = some t) :
    t.start ≤ min column l.length ∧ min column l.length ≤ t.stop := by
  obtain ⟨anchor, start, stop, -, -, rfl, -, hcolumn⟩ := exists_isWidestName_of_at? h
  exact hcolumn

/-- Tokens that are found in a line and have a column in common are the same. -/
theorem eq_or_apart_of_at? (h : at? l column = some t) (h' : at? l n = some t') :
    t' = t ∨ t'.stop ≤ t.start ∨ t.stop ≤ t'.start := by
  by_contra hne
  rw [not_or, not_or, not_le, not_le] at hne
  obtain ⟨hne, hlt, hlt'⟩ := hne
  -- the column where the second one of them begins is in both
  have hmem : max t.start t'.start < t.stop := max_lt (isTokenOf_of_at? h).start_lt_stop hlt'
  have hmem' : max t.start t'.start < t'.stop := max_lt hlt (isTokenOf_of_at? h').start_lt_stop
  have hfound := at?_eq_of_mem h (le_max_left _ _) hmem
  rw [at?_eq_of_mem h' (le_max_right _ _) hmem'] at hfound
  exact hne (Option.some.inj hfound)

/-- Tokens divide the line. A token that is found is at the cursor or right before it, it is a
stretch of the form of tokens that cannot be made longer, and it is found from each of its columns.
So the tokens that are found from any two columns are equal or apart. No token is passed over as
long as its name characters are word characters. -/
theorem at?_partitions (l : List Char) :
    (∀ column t, at? l column = some t →
      t.IsTokenOf l ∧
        (t.start ≤ min column l.length ∧ min column l.length ≤ t.stop) ∧
        (∀ n, t.start ≤ n → n < t.stop → at? l n = some t) ∧
        ∀ n t', at? l n = some t' → t' = t ∨ t'.stop ≤ t.start ∨ t.stop ≤ t'.start) ∧
    ∀ t : Token, t.IsTokenOf l →
      (∀ c ∈ t.text.toList, isNameChar c = true → Text.isWord c = true) →
      ∀ n, t.start ≤ n → n < t.stop → at? l n = some t := by
  refine ⟨fun column t h => ⟨isTokenOf_of_at? h, mem_of_at? h, fun n => at?_eq_of_mem h,
    fun n t' => eq_or_apart_of_at? h⟩, fun t h hword n => h.at?_eq hword⟩

/-- Two hyphens join no names, and the `~` ends its token although a name follows it. -/
theorem at?_partitions_negatedName :
    let l := "x--!mv-expand~y".toList
    let t : Token := ⟨"!mv-expand~", 3, 14⟩
    at? l 3 = some t ∧ t.IsTokenOf l ∧ (3 ≤ 3 ∧ 3 ≤ 14) ∧ at? l 13 = some t ∧
      at? l 99 = some ⟨"y", 14, 15⟩ ∧ (⟨"y", 14, 15⟩ = t ∨ 15 ≤ 3 ∨ 14 ≤ 14) ∧
        (∀ c ∈ t.text.toList, isNameChar c = true → Text.isWord c = true) ∧ at? l 6 = some t := by
  intro l t
  have hfound : at? l 3 = some t := by decide +kernel
  have hother : at? l 99 = some ⟨"y", 14, 15⟩ := by decide +kernel
  have hall : t.text.toList.all (fun c => !isNameChar c || Text.isWord c) = true := by
    decide +kernel
  have hword : ∀ c ∈ t.text.toList, isNameChar c = true → Text.isWord c = true := by
    intro c hc hname
    simpa [hname] using List.all_eq_true.mp hall c hc
  obtain ⟨hsound, hcomplete⟩ := at?_partitions l
  obtain ⟨htoken, hcolumn, hmem, hapart⟩ := hsound 3 t hfound
  exact ⟨hfound, htoken, hcolumn, hmem 13 (by decide) (by decide), hother, hapart 99 _ hother,
    hword, hcomplete t htoken hword 6 (by decide) (by decide)⟩

end QueryAssist.Token
