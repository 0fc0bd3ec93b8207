import Mathlib.Data.List.Induction
import QueryAssist.Document.Call

/-!
# The innermost open parenthesis

The call around the end of a text is found by going backwards with a counter. Going forwards, the
open parentheses make up a stack, and the call is the one on top of it. The counter of the way back
is a depth in that stack: after `depth` closing parentheses the scan is looking for the frame that
was below `depth` others.

## Main definitions

* `Call.Frame` — an open parenthesis, with the commas at its level
* `Call.openFrames` — the open parentheses of a text, the innermost one first
* `Catalog.calledEntry?` — the function or operator whose name stands in front of a parenthesis

## Main results

* `openCall?_reverse` — going backwards finds the frame at the depth of the counter
* `signature?_of_openFrames` — the signature is that of the call on top of the stack
-/

namespace QueryAssist

namespace Call

variable {text : List Char} {stack : List Frame} {f : Frame} {c : Char} {depth commas : Nat}

/-- A parenthesis that is open. -/
structure Frame where
  /-- The number of characters before it. -/
  position : Nat
  /-- The number of commas behind it that are in no other parentheses. -/
  commas : Nat := 0
deriving DecidableEq, Repr

/-- One more comma at the level of the innermost open parenthesis; it does not matter outside of
all parentheses. -/
def addComma : List Frame → List Frame
  | [] => []
  | f :: outer => { f with commas := f.commas + 1 } :: outer

/-- The open parentheses behind the character `c`, which stands behind `position` others. A closing
parenthesis without a partner is passed over. -/
def readChar (position : Nat) (c : Char) (stack : List Frame) : List Frame :=
  if c = '(' then { position } :: stack
  else if c = ')' then stack.tail
  else if c = ',' then addComma stack
  else stack

/-- The parentheses that are open at the end of a text, the innermost one first. -/
def openFrames (text : List Char) : List Frame :=
  text.zipIdx.foldl (fun stack e => readChar e.2 e.1 stack) []

/-! ### Reading one character more -/

theorem openFrames_concat (text : List Char) (c : Char) :
    openFrames (text ++ [c]) = readChar text.length c (openFrames text) := by
  rw [openFrames, List.zipIdx_append, List.foldl_append, Nat.zero_add]
  rfl

theorem exists_mem_of_mem_addComma (h : f ∈ addComma stack) :
    ∃ g ∈ stack, g.position = f.position := by
  cases stack with
  | nil => cases h
  | cons g outer =>
    rcases List.mem_cons.mp h with rfl | h
    · exact ⟨g, List.mem_cons_self, rfl⟩
    · exact ⟨f, List.mem_cons_of_mem g h, rfl⟩

/-- What is open behind a character was open before it, apart from the character itself. -/
theorem position_of_mem_readChar {position : Nat} (h : f ∈ readChar position c stack) :
    (c = '(' ∧ f.position = position) ∨ ∃ g ∈ stack, g.position = f.position := by
  rw [readChar] at h
  split at h
  · rename_i hopen
    rcases List.mem_cons.mp h with rfl | h
    · exact Or.inl ⟨hopen, rfl⟩
    · exact Or.inr ⟨f, h, rfl⟩
  · right
    split at h
    · exact ⟨f, List.mem_of_mem_tail h, rfl⟩
    · split at h
      · exact exists_mem_of_mem_addComma h
      · exact ⟨f, h, rfl⟩

/-- Every frame stands for a parenthesis of the text. -/
theorem getElem?_position (h : f ∈ openFrames text) : text[f.position]? = some '(' := by
  induction text using List.reverseRecOn generalizing f with
  | nil => cases h
  | append_singleton text c ih =>
    rw [openFrames_concat] at h
    rcases position_of_mem_readChar h with ⟨rfl, hposition⟩ | ⟨g, hg, hposition⟩
    · rw [hposition, List.getElem?_concat_length]
    · have hlt := (List.getElem?_eq_some_iff.mp (ih hg)).1
      rw [← hposition, List.getElem?_append_left hlt, ih hg]

theorem position_lt_length (h : f ∈ openFrames text) : f.position < text.length :=
  (List.getElem?_eq_some_iff.mp (getElem?_position h)).1

/-! ### Going backwards -/

theorem openCall?_close (depth commas : Nat) (before : List Char) :
    openCall? depth commas (')' :: before) = openCall? (depth + 1) commas before := by
  simp [openCall?]

theorem openCall?_open_zero (commas : Nat) (before : List Char) :
    openCall? 0 commas ('(' :: before) = some (commas, before) := by
  simp [openCall?]

theorem openCall?_open_succ (depth commas : Nat) (before : List Char) :
    openCall? (depth + 1) commas ('(' :: before) = openCall? depth commas before := by
  simp [openCall?]

theorem openCall?_comma_zero (commas : Nat) (before : List Char) :
    openCall? 0 commas (',' :: before) = openCall? 0 (commas + 1) before := by
  simp [openCall?]

theorem openCall?_comma_succ (depth commas : Nat) (before : List Char) :
    openCall? (depth + 1) commas (',' :: before) = openCall? (depth + 1) commas before := by
  simp [openCall?]

/-- All other characters are passed over. -/
theorem openCall?_cons_of_ne (hclose : c ≠ ')') (hopen : c ≠ '(') (hcomma : c ≠ ',')
    (depth commas : Nat) (before : List Char) :
    openCall? depth commas (c :: before) = openCall? depth commas before := by
  simp [openCall?, hclose, hopen, hcomma]

theorem readChar_close (position : Nat) (stack : List Frame) :
    readChar position ')' stack = stack.tail := by
  simp [readChar]

theorem readChar_open (position : Nat) (stack : List Frame) :
    readChar position '(' stack = { position } :: stack := by
  simp [readChar]

theorem readChar_comma (position : Nat) (stack : List Frame) :
    readChar position ',' stack = addComma stack := by
  simp [readChar]

theorem readChar_of_ne (hclose : c ≠ ')') (hopen : c ≠ '(') (hcomma : c ≠ ',') (position : Nat)
    (stack : List Frame) : readChar position c stack = stack := by
  simp [readChar, hclose, hopen, hcomma]

theorem getElem?_addComma_zero (stack : List Frame) :
    (addComma stack)[0]? = stack[0]?.map fun f => { f with commas := f.commas + 1 } := by
  cases stack <;> rfl

theorem getElem?_addComma_succ (stack : List Frame) (depth : Nat) :
    (addComma stack)[depth + 1]? = stack[depth + 1]? := by
  cases stack <;> rfl

/-- With `depth` parentheses closed and `commas` commas seen, going backwards finds the frame below
`depth` others, and adds its commas to those seen. -/
theorem openCall?_reverse (text : List Char) (depth commas : Nat) :
    openCall? depth commas text.reverse =
      (openFrames text)[depth]?.map fun f =>
        (commas + f.commas, (text.take f.position).reverse) := by
  induction text using List.reverseRecOn generalizing depth commas with
  | nil => rfl
  | append_singleton text c ih =>
    -- no frame that was open before `c` reaches behind the text before `c`
    have htake : ∀ (n commas : Nat), (openFrames text)[n]?.map (fun f =>
        (commas + f.commas, ((text ++ [c]).take f.position).reverse)) =
          openCall? n commas text.reverse := by
      intro n commas
      rw [ih]
      refine Option.map_congr fun f hf => ?_
      have hlt := position_lt_length (List.mem_of_getElem? hf)
      rw [List.take_append_of_le_length (Nat.le_of_lt hlt)]
    rw [List.reverse_append, List.reverse_singleton, List.singleton_append, openFrames_concat]
    by_cases hclose : c = ')'
    · -- the frames move up by one
      subst hclose
      rw [openCall?_close, readChar_close, List.getElem?_tail, htake]
    by_cases hopen : c = '('
    · subst hopen
      rw [readChar_open]
      cases depth with
      | zero => simp [openCall?_open_zero]
      | succ depth => rw [openCall?_open_succ, List.getElem?_cons_succ, htake]
    by_cases hcomma : c = ','
    · -- a comma counts for the top frame, which is the one looked for at depth zero
      subst hcomma
      rw [readChar_comma]
      cases depth with
      | zero =>
        have hcount : ∀ f : Frame, commas + (f.commas + 1) = commas + 1 + f.commas := by
          intro f
          omega
        rw [openCall?_comma_zero, getElem?_addComma_zero, Option.map_map, ← htake]
        simp only [Function.comp_def, hcount]
      | succ depth => rw [openCall?_comma_succ, getElem?_addComma_succ, htake]
    · rw [openCall?_cons_of_ne hclose hopen hcomma, readChar_of_ne hclose hopen hcomma, htake]

end Call

namespace Catalog

open Call

/-- The function, or else the operator, with a name that is not empty. -/
def entryNamed? (c : Catalog) (name : List Char) : Option Entry :=
  if name.isEmpty then none
  else (c.findFunction? (String.ofList name)).or (c.findOperator? (String.ofList name))

/-- The entry whose name ends the text in front of a parenthesis. -/
def calledEntry? (c : Catalog) (head : List Char) : Option Entry :=
  c.entryNamed? (nameBefore head.reverse)

/-- Of the way back a signature needs the commas and the name in front of the parenthesis. -/
theorem signature?_eq_bind_openCall? (c : Catalog) (before : List Char) :
    c.signature? before = (openCall? 0 0 (maskLines before).reverse).bind fun call =>
      (c.entryNamed? (nameBefore call.2)).map (Signature.ofEntry · call.1) := by
  rw [signature?]
  cases openCall? 0 0 (maskLines before).reverse with
  | none => rfl
  | some call =>
    simp only [Option.bind_eq_bind, Option.bind_some, entryNamed?]
    split
    · rfl
    · rw [Option.map_eq_bind]
      rfl

/-- The signature is that of the call whose parenthesis is on top of the stack. -/
theorem signature?_eq_bind_head?_openFrames (c : Catalog) (before : List Char) :
    c.signature? before = (openFrames (maskLines before)).head?.bind fun f =>
      (c.calledEntry? ((maskLines before).take f.position)).map (Signature.ofEntry · f.commas) := by
  rw [signature?_eq_bind_openCall?, openCall?_reverse, List.head?_eq_getElem?, Option.bind_map]
  simp only [Function.comp_def, Nat.zero_add, calledEntry?]

/-- Where no parenthesis is open there is no signature. Otherwise it is that of the call at the
innermost open parenthesis, and the active parameter is the number of commas at its level. -/
theorem signature?_of_openFrames (c : Catalog) (before : List Char) :
    (openFrames (maskLines before) = [] → c.signature? before = none) ∧
      ∀ f outer, openFrames (maskLines before) = f :: outer →
        (maskLines before)[f.position]? = some '(' ∧
        c.signature? before = (c.calledEntry? ((maskLines before).take f.position)).map
          (Signature.ofEntry · f.commas) ∧
        ∀ s, c.signature? before = some s → s.activeParameter = f.commas := by
  have heq := signature?_eq_bind_head?_openFrames c before
  refine ⟨fun hnil => ?_, fun f outer hcons => ?_⟩
  · rw [heq, hnil]
    rfl
  · rw [hcons] at heq
    refine ⟨getElem?_position (hcons ▸ List.mem_cons_self), heq, fun s hs => ?_⟩
    rw [heq] at hs
    obtain ⟨e, -, rfl⟩ := Option.map_eq_some_iff.mp hs
    rfl

/-- A catalog with one function. -/
def concatenation : Catalog := Catalog.addFunction ∅ { name := "strcat" }

/-- A call that is closed on its line has no signature. In a call that goes on after a closed one
and a literal, over two lines, the commas of its own level count. -/
theorem signature?_of_openFrames_twoTexts :
    openFrames (maskLines "| where strcat(a, b))".toList) = [] ∧
      concatenation.signature? "| where strcat(a, b))".toList = none ∧
      openFrames (maskLines ")\n| where strcat (f(a, b), '(,'\n, ".toList) = [⟨17, 2⟩] ∧
      ∃ s, concatenation.signature? ")\n| where strcat (f(a, b), '(,'\n, ".toList = some s ∧
        s.activeParameter = 2 := by
  have hclosed : openFrames (maskLines "| where strcat(a, b))".toList) = [] := by decide +kernel
  have hopen : openFrames (maskLines ")\n| where strcat (f(a, b), '(,'\n, ".toList) =
      [⟨17, 2⟩] := by decide +kernel
  have hsome : (concatenation.signature? ")\n| where strcat (f(a, b), '(,'\n, ".toList).isSome := by
    decide +kernel
  obtain ⟨s, hs⟩ := Option.isSome_iff_exists.mp hsome
  obtain ⟨-, -, hparameter⟩ := (signature?_of_openFrames concatenation _).2 _ _ hopen
  exact ⟨hclosed, (signature?_of_openFrames concatenation _).1 hclosed, hopen, s, hs,
    hparameter s hs⟩

end Catalog

end QueryAssist
