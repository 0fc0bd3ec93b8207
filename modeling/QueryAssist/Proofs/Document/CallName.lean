import Mathlib.Data.List.DropRight
import QueryAssist.Proofs.Document.Call
import QueryAssist.Proofs.Line.Token
import QueryAssist.Proofs.Text.Lines
import QueryAssist.Proofs.Text.Word

/-!
# The name of a call and the token before its parenthesis

The name of a call is read backwards from the parenthesis. It takes in every hyphen, whereas a token
takes in a hyphen only between two name characters. So the name of the call is the token before the
parenthesis together with what hyphens join it to, and it is the token itself exactly if no hyphen
stands right before that.

## Main definitions

* `Call.goesOn` — the characters that the name of a call is read over
* `Call.IsCalled` — a token stands between a text and a parenthesis

## Main results

* `IsCalled.eq_append` — a token that is called is a whole name
* `IsCalled.nameBefore_eq` — what is read in front of the parenthesis
* `signature?_of_isCalled` — a call is looked up under its token if no hyphen stands before that
-/

namespace QueryAssist

open Text

theorem isNameChar_of_isBlank {c : Char} (h : isBlank c = true) : isNameChar c = false := by
  have hunderscore : c ≠ '_' := ne_of_isBlank h (by decide)
  simp [isNameChar, isAlphanumeric_of_isBlank h, hunderscore]

namespace Token

variable {l : List Char} {c : Char} {start stop column anchor : Nat}

theorem mem_extract (h : l[column]? = some c) (hstart : start ≤ column) (hstop : column < stop) :
    c ∈ l.extract start stop := by
  rw [extract_eq_around hstart hstop (drop_eq_cons_of_getElem? h)]
  exact List.mem_append_right _ List.mem_cons_self

/-- No name character stands right before the widest name. -/
theorem IsWidestName.isNameChar_of_getLast? (h : IsWidestName l anchor start stop)
    (hc : (l.take start).getLast? = some c) : isNameChar c = false := by
  rw [← Bool.not_eq_true]
  intro hname
  have hlt : start < stop := h.start_le.trans_lt h.lt_stop
  cases start with
  | zero => cases hc
  | succ k =>
    have hk : k < l.length := (Nat.lt_of_succ_lt hlt).trans_le h.stop_le
    have hget : l[k]? = some c := by
      rwa [List.take_add_one, List.getElem?_eq_getElem hk, Option.toList_some,
        List.getLast?_concat, ← List.getElem?_eq_getElem hk] at hc
    -- with the character the name would be wider
    have hwider : IsName (l.extract k stop) := by
      rw [← extract_append_extract (Nat.le_succ k) hlt.le, extract_succ_eq_singleton.mpr hget]
      exact h.isName.cons hname
    have hle := (h.widest (Nat.le_of_succ_le h.start_le) h.lt_stop h.stop_le hwider).1
    exact Nat.not_succ_le_self k hle

end Token

namespace Call

variable {head before name : List Char} {t : Token}

/-- A character of a name, or a hyphen: the name of a call is read over these. -/
def goesOn (c : Char) : Bool := isNameChar c || c == '-'

/-- The token `t` stands right between `head` and a parenthesis, without a `!` or a `~`. -/
structure IsCalled (head : List Char) (t : Token) : Prop where
  /-- It is the token at the parenthesis. -/
  found : Token.at? (head ++ ['(']) head.length = some t
  /-- It ends there. -/
  stop_eq : t.stop = head.length
  /-- It has no `!`. -/
  bang_notMem : '!' ∉ t.text.toList
  /-- It has no `~`. -/
  tilde_notMem : '~' ∉ t.text.toList

/-- A text in front of a parenthesis ends in the token that is called, which is a name, and the name
does not go on to the left. -/
theorem IsCalled.eq_append (h : IsCalled head t) :
    head = head.take t.start ++ t.text.toList ∧ Token.IsName t.text.toList ∧
      ∀ c ∈ (head.take t.start).getLast?, isNameChar c = false := by
  obtain ⟨anchor, start, stop, -, hname, rfl, -⟩ := Token.exists_isWidestName_of_at? h.found
  set l := head ++ ['('] with hl
  have hlt : start < stop := hname.start_le.trans_lt hname.lt_stop
  have hle : start ≤ l.length := hlt.le.trans hname.stop_le
  have htext : (Token.decorated l start stop).text.toList =
      l.extract (Token.withBang l start) (Token.withTilde l stop) := String.toList_ofList
  -- what stands beside the name would be in the token
  have hstart : Token.withBang l start = start := by
    refine (Token.addsBang_withBang hle).resolve_right ?_
    rintro ⟨hsucc, hget⟩
    have htilde := (Token.addsTilde_withTilde l stop).le
    exact h.bang_notMem (htext ▸ Token.mem_extract hget le_rfl (by omega))
  have hstop : Token.withTilde l stop = stop := by
    refine (Token.addsTilde_withTilde l stop).resolve_right ?_
    rintro ⟨hsucc, hget⟩
    exact h.tilde_notMem (htext ▸ Token.mem_extract hget (by omega) (by omega))
  have hend : stop = head.length := hstop.symm.trans h.stop_eq
  have htake : l.take start = head.take start := List.take_append_of_le_length (by omega)
  have hdrop : l.extract start stop = head.drop start := by
    rw [List.extract_eq_take_drop, hl, List.drop_append_of_le_length (by omega), hend,
      ← List.length_drop, List.take_left]
  rw [hstart, hstop] at htext
  refine ⟨?_, ?_, ?_⟩
  · change head = head.take (Token.withBang l start) ++ _
    rw [htext, hdrop, hstart, List.take_append_drop]
  · rw [htext]
    exact hname.isName
  · intro c hc
    change c ∈ (head.take (Token.withBang l start)).getLast? at hc
    rw [hstart, ← htake] at hc
    exact hname.isNameChar_of_getLast? hc

theorem goesOn_of_isName {c : Char} (hname : Token.IsName name) (hc : c ∈ name) :
    goesOn c = true := by
  rw [goesOn, Bool.or_eq_true, beq_iff_eq]
  exact hname.of_mem hc

/-- In front of a parenthesis a name is read to its beginning, and from there over hyphens and what
they join to it. -/
theorem nameBefore_reverse_append (hname : Token.IsName name) (before : List Char) :
    nameBefore (before ++ name).reverse = before.rtakeWhile goesOn ++ name := by
  obtain ⟨c, rest, hreverse, hc⟩ := Token.beginsName_iff.mp hname.reverse.beginsName
  have hblank : isBlank c = false := by
    rw [← Bool.not_eq_true]
    intro hblank
    rw [isNameChar_of_isBlank hblank] at hc
    cases hc
  -- the name ends at the parenthesis, with no blanks between
  have hdrop : (before ++ name).reverse.dropWhile isBlank = name.reverse ++ before.reverse := by
    rw [List.reverse_append, hreverse, List.cons_append,
      List.dropWhile_cons_of_neg (Bool.eq_false_iff.mp hblank)]
  have hall : ∀ c ∈ name.reverse, goesOn c = true := fun c hc =>
    goesOn_of_isName hname (List.mem_reverse.mp hc)
  have hread : nameBefore (before ++ name).reverse =
      ((name.reverse ++ before.reverse).takeWhile goesOn).reverse := by
    rw [← hdrop]
    rfl
  rw [hread, List.takeWhile_append_of_pos hall, List.reverse_append, List.reverse_reverse,
    List.rtakeWhile]

/-- The name of a call begins with its token if no hyphen stands right before that. -/
theorem rtakeWhile_goesOn_eq_nil_iff (h : ∀ c ∈ before.getLast?, isNameChar c = false) :
    before.rtakeWhile goesOn = [] ↔ before.getLast? ≠ some '-' := by
  rcases List.eq_nil_or_concat' before with rfl | ⟨front, c, rfl⟩
  · simp
  · have hc : isNameChar c = false := h c List.getLast?_concat
    rw [List.rtakeWhile_concat, List.getLast?_concat, goesOn, hc, Bool.false_or]
    by_cases hhyphen : c = '-' <;> simp [hhyphen]

/-- What is read in front of the parenthesis is the token, and before it what hyphens join to it. -/
theorem IsCalled.nameBefore_eq (h : IsCalled head t) :
    nameBefore head.reverse = (head.take t.start).rtakeWhile goesOn ++ t.text.toList := by
  obtain ⟨hhead, hname, -⟩ := h.eq_append
  conv_lhs => rw [hhead, nameBefore_reverse_append hname]

/-- The name of a call is the token exactly if no hyphen stands right before the token. -/
theorem IsCalled.nameBefore_eq_iff (h : IsCalled head t) :
    nameBefore head.reverse = t.text.toList ↔ (head.take t.start).getLast? ≠ some '-' := by
  obtain ⟨-, -, hbefore⟩ := h.eq_append
  rw [h.nameBefore_eq, List.append_left_eq_self, rtakeWhile_goesOn_eq_nil_iff hbefore]

theorem maskLines_of_notMem {line : List Char} (h : '\n' ∉ line) :
    maskLines line = Literal.mask line := by
  rw [maskLines, pieces_of_notMem h]
  rfl

end Call

namespace Catalog

open Call

variable {head : List Char} {t : Token} {e : Entry}

/-- Right behind a parenthesis the signature is that of the name in front of it. -/
theorem signature?_append_paren (c : Catalog) (hbreak : '\n' ∉ head)
    (hmask : Literal.mask (head ++ ['(']) = head ++ ['(']) :
    c.signature? (head ++ ['(']) =
      (c.entryNamed? (nameBefore head.reverse)).map (Signature.ofEntry · 0) := by
  have hline : '\n' ∉ head ++ ['('] := by simpa using hbreak
  rw [signature?_eq_bind_openCall?, maskLines_of_notMem hline, hmask, List.reverse_append,
    List.reverse_singleton, List.singleton_append, openCall?_open_zero, Option.bind_some]

/-- In a line without literals and comments that ends in a parenthesis, the call is looked up under
the token in front of the parenthesis, together with what hyphens join to the token. If no hyphen
stands right before the token, the entry with its name is described. -/
theorem signature?_of_isCalled (c : Catalog) (hbreak : '\n' ∉ head)
    (hmask : Literal.mask (head ++ ['(']) = head ++ ['(']) (htoken : IsCalled head t)
    (hentry : (c.findFunction? t.text).or (c.findOperator? t.text) = some e) :
    c.signature? (head ++ ['(']) =
        (c.entryNamed? ((head.take t.start).rtakeWhile goesOn ++ t.text.toList)).map
          (Signature.ofEntry · 0) ∧
      (nameBefore head.reverse = t.text.toList ↔ (head.take t.start).getLast? ≠ some '-') ∧
      ((head.take t.start).getLast? ≠ some '-' →
        ∃ s, c.signature? (head ++ ['(']) = some s ∧ s.label = e.usage.getD (e.name ++ "()")) := by
  have hsignature := signature?_append_paren c hbreak hmask
  refine ⟨?_, htoken.nameBefore_eq_iff, fun hhyphen => ?_⟩
  · rw [hsignature, htoken.nameBefore_eq]
  · have hne : t.text.toList.isEmpty = false := by
      rw [List.isEmpty_eq_false_iff]
      exact htoken.eq_append.2.1.ne_nil
    rw [hsignature, htoken.nameBefore_eq_iff.mpr hhyphen, entryNamed?, hne,
      if_neg Bool.false_ne_true, String.ofList_toList, hentry]
    exact ⟨.ofEntry e 0, rfl, rfl⟩

/-- A catalog with one function and one operator. -/
def countAndExpand : Catalog :=
  ((∅ : Catalog).addFunction { name := "count" }).addOperator { name := "mv-expand" }

/-- An operator with a hyphen in its name. -/
theorem signature?_of_isCalled_expand :
    '\n' ∉ "| mv-expand".toList ∧
      Literal.mask ("| mv-expand".toList ++ ['(']) = "| mv-expand".toList ++ ['('] ∧
      IsCalled "| mv-expand".toList ⟨"mv-expand", 2, 11⟩ ∧
      (countAndExpand.findFunction? "mv-expand").or (countAndExpand.findOperator? "mv-expand") =
        some { name := "mv-expand" } ∧
      ("| mv-expand".toList.take 2).getLast? ≠ some '-' ∧
      ∃ s, countAndExpand.signature? ("| mv-expand".toList ++ ['(']) = some s ∧
        s.label = "mv-expand()" := by
  have hbreak : '\n' ∉ "| mv-expand".toList := by decide
  have hmask : Literal.mask ("| mv-expand".toList ++ ['(']) = "| mv-expand".toList ++ ['('] := by
    decide
  have htoken : IsCalled "| mv-expand".toList ⟨"mv-expand", 2, 11⟩ := by
    constructor <;> decide +kernel
  have hentry : (countAndExpand.findFunction? "mv-expand").or
      (countAndExpand.findOperator? "mv-expand") = some { name := "mv-expand" } := by
    decide +kernel
  have hhyphen : ("| mv-expand".toList.take 2).getLast? ≠ some '-' := by decide
  exact ⟨hbreak, hmask, htoken, hentry, hhyphen,
    (signature?_of_isCalled countAndExpand hbreak hmask htoken hentry).2.2 hhyphen⟩

/-- Behind a minus sign, the token in front of the parenthesis is the name of a function, but the
sign is read as a part of the name. -/
theorem signature?_of_minus_eq_none :
    '\n' ∉ "x = -count".toList ∧
      Literal.mask ("x = -count".toList ++ ['(']) = "x = -count".toList ++ ['('] ∧
      IsCalled "x = -count".toList ⟨"count", 5, 10⟩ ∧
      countAndExpand.findFunction? "count" = some { name := "count" } ∧
      countAndExpand.signature? ("x = -count".toList ++ ['(']) = none := by
  refine ⟨by decide, by decide, ?_, by decide +kernel, by decide +kernel⟩
  constructor <;> decide +kernel

end Catalog

end QueryAssist
