import Mathlib.Data.List.Chain
import QueryAssist.Line.Token
import QueryAssist.Proofs.Pattern.Reading

/-!
# Names and their scan

A name is made of runs of name characters that are joined by single hyphens. Which characters may
stand next to each other in a name reads the same backwards, so one scan goes for both directions:
from a name character on, it reads the longest name.

## Main definitions

* `Token.IsName`, `Token.HasForm` — the form of names and of tokens
* `Token.Joins` — characters that may stand next to each other in a name

## Main results

* `isName_iff_isChain` — names by the neighbours of their characters
* `isName_reverse_append_cons` — a name around a character is two names that begin with it
* `isName_cons_take_nameLength`, `le_nameLength_of_isName_cons` — what the scan reads is a name, and
  it reads every name
* `isFoundIn_shape` — the pattern for tokens reads what has their form and is made of word
  characters
-/

namespace QueryAssist.Token

variable {c d : Char} {l l' p q name text : List Char} {n : Nat}

/-! ### Names -/

/-- A name: runs of name characters joined by single hyphens. -/
inductive IsName : List Char → Prop
  | run {run : List Char} (hne : run ≠ []) (h : ∀ c ∈ run, isNameChar c = true) : IsName run
  | join {run rest : List Char} (hne : run ≠ []) (h : ∀ c ∈ run, isNameChar c = true)
      (hrest : IsName rest) : IsName (run ++ '-' :: rest)

@[simp] theorem isNameChar_hyphen : isNameChar '-' = false := by decide +kernel

@[simp] theorem isNameChar_bang : isNameChar '!' = false := by decide +kernel

@[simp] theorem isNameChar_tilde : isNameChar '~' = false := by decide +kernel

@[simp] theorem beginsName_nil : beginsName [] = false := rfl

@[simp] theorem beginsName_cons (c : Char) (l : List Char) :
    beginsName (c :: l) = isNameChar c := rfl

theorem beginsName_iff : beginsName l = true ↔ ∃ c rest, l = c :: rest ∧ isNameChar c = true := by
  cases l <;> simp

theorem beginsName_append_of_ne_nil (h : l ≠ []) (l' : List Char) :
    beginsName (l ++ l') = beginsName l := by
  cases l with
  | nil => exact (h rfl).elim
  | cons c l => rfl

theorem beginsName_of_isPrefix (h : l <+: l') (hl : beginsName l = true) :
    beginsName l' = true := by
  obtain ⟨rest, rfl⟩ := h
  cases l with
  | nil => cases hl
  | cons c l => exact hl

theorem beginsName_of_forall (hne : l ≠ []) (h : ∀ c ∈ l, isNameChar c = true) :
    beginsName l = true := by
  cases l with
  | nil => exact (hne rfl).elim
  | cons c l => exact h c List.mem_cons_self

theorem IsName.ne_nil (h : IsName l) : l ≠ [] := by
  cases h with
  | run hne h => exact hne
  | join hne h hrest => simp

theorem IsName.beginsName (h : IsName l) : beginsName l = true := by
  cases h with
  | run hne h => exact beginsName_of_forall hne h
  | join hne h hrest =>
    rw [beginsName_append_of_ne_nil hne]
    exact beginsName_of_forall hne h

theorem isName_singleton (hc : isNameChar c = true) : IsName [c] :=
  .run (List.cons_ne_nil c []) (List.forall_mem_singleton.mpr hc)

theorem IsName.cons (hc : isNameChar c = true) (h : IsName l) : IsName (c :: l) := by
  cases h with
  | run hne h => exact .run (List.cons_ne_nil c l) (List.forall_mem_cons.mpr ⟨hc, h⟩)
  | @join run rest hne h hrest =>
    exact .join (List.cons_ne_nil c run) (List.forall_mem_cons.mpr ⟨hc, h⟩) hrest

theorem IsName.cons_hyphen (hc : isNameChar c = true) (h : IsName l) : IsName (c :: '-' :: l) :=
  .join (List.cons_ne_nil c []) (List.forall_mem_singleton.mpr hc) h

theorem IsName.append_hyphen (h : IsName l) (h' : IsName l') : IsName (l ++ '-' :: l') := by
  induction h with
  | run hne h => exact .join hne h h'
  | join hne h _ ih =>
    rw [List.append_assoc, List.cons_append]
    exact .join hne h ih

/-- A name read backwards is a name. -/
theorem IsName.reverse (h : IsName l) : IsName l.reverse := by
  induction h with
  | run hne h => exact .run (by simpa using hne) (by simpa using h)
  | join hne h _ ih =>
    rw [List.reverse_append, List.reverse_cons, List.append_assoc, List.singleton_append]
    exact ih.append_hyphen (.run (by simpa using hne) (by simpa using h))

theorem IsName.of_mem (h : IsName l) (hc : c ∈ l) : isNameChar c = true ∨ c = '-' := by
  induction h with
  | run hne h => exact Or.inl (h c hc)
  | join hne h _ ih =>
    rcases List.mem_append.mp hc with hc | hc
    · exact Or.inl (h c hc)
    · rcases List.mem_cons.mp hc with rfl | hc
      · exact Or.inr rfl
      · exact ih hc

/-! ### Neighbours in a name -/

/-- The second character may stand right behind the first one in a name. -/
def Joins (c d : Char) : Prop :=
  isNameChar c = true ∧ (isNameChar d = true ∨ d = '-') ∨ c = '-' ∧ isNameChar d = true

theorem joins_comm : Joins c d ↔ Joins d c := by
  unfold Joins
  tauto

theorem isNameChar_of_joins_hyphen (h : Joins c '-') : isNameChar c = true := by
  rcases h with ⟨hc, -⟩ | ⟨-, hd⟩
  · exact hc
  · simp at hd

theorem IsName.isChain (h : IsName l) : l.IsChain Joins := by
  have hrun {run : List Char} (h : ∀ c ∈ run, isNameChar c = true) : run.IsChain Joins :=
    List.Pairwise.isChain (List.pairwise_of_forall_mem_list fun c hc d hd =>
      Or.inl ⟨h c hc, Or.inl (h d hd)⟩)
  induction h with
  | run hne h => exact hrun h
  | join hne h hrest ih =>
    obtain ⟨d, rest, rfl, hd⟩ := beginsName_iff.mp hrest.beginsName
    refine List.isChain_append.mpr ⟨hrun h, List.isChain_cons_cons.mpr ⟨Or.inr ⟨rfl, hd⟩, ih⟩, ?_⟩
    intro c hc d hd
    obtain rfl : '-' = d := Option.some.inj hd
    exact Or.inl ⟨h c (List.mem_of_getLast? hc), Or.inr rfl⟩

/-- Characters that may all stand behind each other and end in a name character are a name, or
there is a hyphen before a name. -/
theorem isName_or_of_isChain (h : l.IsChain Joins) (hlast : beginsName l.reverse = true) :
    IsName l ∨ ∃ rest, l = '-' :: rest ∧ IsName rest := by
  induction l with
  | nil => cases hlast
  | cons c l ih =>
    cases l with
    | nil => exact Or.inl (isName_singleton hlast)
    | cons d l =>
      obtain ⟨hcd, hl⟩ := List.isChain_cons_cons.mp h
      rw [List.reverse_cons, beginsName_append_of_ne_nil (by simp)] at hlast
      rcases ih hl hlast with hname | ⟨rest, heq, hname⟩
      · rcases hcd with ⟨hc, -⟩ | ⟨rfl, -⟩
        · exact Or.inl (hname.cons hc)
        · exact Or.inr ⟨_, rfl, hname⟩
      · -- what stands before a hyphen is a name character, so the name goes on to the left
        obtain ⟨rfl, rfl⟩ := List.cons_eq_cons.mp heq
        exact Or.inl (hname.cons_hyphen (isNameChar_of_joins_hyphen hcd))

theorem isName_iff_isChain :
    IsName l ↔ beginsName l = true ∧ beginsName l.reverse = true ∧ l.IsChain Joins := by
  constructor
  · intro h
    exact ⟨h.beginsName, h.reverse.beginsName, h.isChain⟩
  · rintro ⟨hfirst, hlast, hchain⟩
    rcases isName_or_of_isChain hchain hlast with h | ⟨rest, rfl, -⟩
    · exact h
    · simp at hfirst

/-- A name is put together at one of its name characters from two names that begin there, one read
backwards. -/
theorem isName_reverse_append_cons (hc : isNameChar c = true) :
    IsName (p.reverse ++ c :: q) ↔ IsName (c :: p) ∧ IsName (c :: q) := by
  have hbegins (l : List Char) : beginsName (c :: l) = true := hc
  have happend (l l' : List Char) : beginsName (l ++ c :: l') = beginsName (l ++ [c]) := by
    cases l <;> rfl
  -- the relation is symmetric, so a chain may be read backwards
  have hchain : (p.reverse ++ [c]).IsChain Joins ↔ (c :: p).IsChain Joins := by
    rw [← List.reverse_cons, List.isChain_reverse]
    simp only [joins_comm]
  simp only [isName_iff_isChain, List.reverse_append, List.reverse_cons, List.reverse_reverse,
    List.append_assoc, List.singleton_append, List.isChain_split, hchain, happend, hbegins]
  tauto

/-! ### Scans -/

theorem nameLength_cons (hc : isNameChar c = true) (l : List Char) :
    nameLength (c :: l) = nameLength l + 1 := by
  simp [nameLength, hc]

theorem nameLength_hyphen (h : beginsName l = true) : nameLength ('-' :: l) = nameLength l + 1 := by
  simp [nameLength, h]

theorem nameLength_le_length (l : List Char) : nameLength l ≤ l.length := by
  induction l with
  | nil => exact le_rfl
  | cons c l ih =>
    rw [nameLength]
    split
    · exact Nat.succ_le_succ ih
    · exact Nat.zero_le _

theorem nameLength_run_append (h : ∀ c ∈ p, isNameChar c = true) (l : List Char) :
    nameLength (p ++ l) = p.length + nameLength l := by
  induction p with
  | nil => exact (Nat.zero_add _).symm
  | cons c p ih =>
    obtain ⟨hc, hp⟩ := List.forall_mem_cons.mp h
    rw [List.cons_append, nameLength_cons hc, ih hp, List.length_cons]
    omega

/-- The scan reaches the end of every name that it begins with. -/
theorem IsName.length_le_nameLength (h : IsName p) (l : List Char) :
    p.length ≤ nameLength (p ++ l) := by
  induction h with
  | run hne h =>
    rw [nameLength_run_append h]
    exact Nat.le_add_right _ _
  | join hne h hrest ih =>
    have hbegins := hrest.beginsName
    rw [← beginsName_append_of_ne_nil hrest.ne_nil l] at hbegins
    rw [List.append_assoc, List.cons_append, nameLength_run_append h, nameLength_hyphen hbegins,
      List.length_append, List.length_cons]
    omega

/-- What the scan reads behind a name character makes a name with it. -/
theorem isName_cons_take_nameLength (hc : isNameChar c = true) (l : List Char) :
    IsName (c :: l.take (nameLength l)) := by
  induction l generalizing c with
  | nil => exact isName_singleton hc
  | cons d l ih =>
    by_cases hd : isNameChar d = true
    · rw [nameLength_cons hd]
      exact (ih hd).cons hc
    by_cases hhyphen : d = '-' ∧ beginsName l = true
    · -- the hyphen is read with the name character behind it, where the rest of the name begins
      obtain ⟨rfl, hl⟩ := hhyphen
      obtain ⟨e, rest, rfl, he⟩ := beginsName_iff.mp hl
      have hname := ih hc
      rw [nameLength_hyphen hl, nameLength_cons he, List.take_succ_cons]
      rw [nameLength_cons he, List.take_succ_cons] at hname
      exact ((isName_reverse_append_cons (p := [c]) he).mp hname).2.cons_hyphen hc
    · -- nothing is read
      have hzero : nameLength (d :: l) = 0 := by
        simpa [nameLength, hd] using hhyphen
      rw [hzero]
      exact isName_singleton hc

theorem le_nameLength_of_isName_cons (hc : isNameChar c = true) (hn : n ≤ l.length)
    (h : IsName (c :: l.take n)) : n ≤ nameLength l := by
  have hle := h.length_le_nameLength (l.drop n)
  rw [List.cons_append, List.take_append_drop, nameLength_cons hc, List.length_cons,
    List.length_take_of_le hn] at hle
  exact Nat.le_of_succ_le_succ hle

/-! ### The form of tokens -/

/-- The form of tokens: a name, perhaps with a `!` before it and a `~` behind it. -/
def HasForm (text : List Char) : Prop :=
  ∃ bang name tilde, (bang = [] ∨ bang = ['!']) ∧ IsName name ∧ (tilde = [] ∨ tilde = ['~']) ∧
    text = bang ++ name ++ tilde

/-- A name of word characters is a run of them, and rounds of a hyphen and a run follow. -/
theorem IsName.exists_run_rounds (h : IsName name)
    (hword : ∀ c ∈ name, isNameChar c = true → Text.isWord c = true) (before after : List Char) :
    ∃ run more, name = run ++ more ∧ run ≠ [] ∧ (∀ c ∈ run, Text.isWord c = true) ∧
      (Pattern.star (.seq (.char '-') (.run1 Text.isWord))).Reads (before ++ run) more after := by
  induction h generalizing before with
  | @run run hne h =>
    exact ⟨run, [], (List.append_nil run).symm, hne, fun c hc => hword c hc (h c hc), .nil _ _⟩
  | @join run rest hne h _ ih =>
    rw [List.forall_mem_append, List.forall_mem_cons] at hword
    obtain ⟨run', more, rfl, hne', hword', hmore⟩ := ih hword.2.2 (before ++ run ++ ['-'])
    have hround : (Pattern.seq (.char '-') (.run1 Text.isWord)).Reads (before ++ run)
        ('-' :: run') (more ++ after) :=
      ⟨['-'], run', rfl, Pattern.reads_char.mpr rfl, Pattern.reads_run1.mpr ⟨hne', hword'⟩⟩
    rw [← List.append_cons] at hmore
    exact ⟨run, '-' :: run' ++ more, rfl, hne, fun c hc => hword.1 c hc (h c hc),
      .append (List.cons_ne_nil '-' run') hround hmore⟩

/-- The pattern for tokens reads every text of their form whose name characters are word characters.
Some characters are numeric but no word characters. -/
theorem isFoundIn_shape (h : HasForm text)
    (hword : ∀ c ∈ text, isNameChar c = true → Text.isWord c = true) :
    shape.isFoundIn text = true := by
  obtain ⟨bang, name, tilde, hbang, hname, htilde, rfl⟩ := h
  have hwordname : ∀ c ∈ name, isNameChar c = true → Text.isWord c = true := fun c hc =>
    hword c (List.mem_append_left _ (List.mem_append_right _ hc))
  obtain ⟨run, more, rfl, hne, hrun, hmore⟩ := hname.exists_run_rounds hwordname bang (tilde ++ [])
  have hreads : shape.Reads [] (bang ++ (run ++ (more ++ tilde))) [] :=
    ⟨[], _, rfl, ⟨rfl, rfl⟩, bang, _, rfl, Pattern.reads_optional_char.mpr hbang,
      run, _, rfl, Pattern.reads_run1.mpr ⟨hne, hrun⟩, more, tilde, rfl, hmore,
      tilde, [], (List.append_nil tilde).symm, Pattern.reads_optional_char.mpr htilde, rfl, rfl⟩
  exact Pattern.isFoundIn_iff.mpr ⟨[], _, [], by simp, hreads⟩

end QueryAssist.Token
