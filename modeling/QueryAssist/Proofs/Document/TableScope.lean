import Mathlib.Data.List.DropRight
import QueryAssist.Proofs.Document.Parenthesis
import QueryAssist.Proofs.Pattern.Capture

/-!
# Which joins are open

Going backwards from the cursor, the first line that names a table settles the table in force, and
a join in a line counts as long as its parenthesis is open. Which parentheses are taken for open is
a parameter of the scan here: net depth takes a closed one for open when other parentheses stay
open behind it, and matching parentheses does not.

## Main definitions

* `TableScope.linesBack` — the lines from the cursor backwards, each with the text behind it
* `TableScope.Join` — a join, with the text from its parenthesis to the cursor
* `Catalog.tableScopeBy?` — the table in force, by a test for open parentheses

## Main results

* `tableScope?_eq_tableScopeBy?_netDepth` — the scan with net depth as its test
* `tableScope?_eq_tableScopeBy?_isOpen` — a join counts if it is open, or if parentheses stay open
  behind the one that closes it; without the latter, the open joins alone count
* `tableScope?_ne_tableScopeBy?_isOpen` — a closed join that settles the table
-/

namespace QueryAssist

namespace TableScope

/-- Lines that go backwards, each with the text behind it; `later` is the text behind the first. -/
def linesBack : (later : List Char) → List (List Char) → List (List Char × List Char)
  | _, [] => []
  | later, line :: earlier => (line, later) :: linesBack ('\n' :: line ++ later) earlier

/-- The lines of a text from its end backwards that are neither blank nor comments, each with the
text behind it. -/
def statementsBack (before : List Char) : List (List Char × List Char) :=
  (linesBack [] (Text.pieces before).reverse).filter fun e => !isIdle (Text.dropReturns e.1)

/-- A join of a table. -/
structure Join where
  /-- The name of the table. -/
  name : List Char
  /-- The text from the parenthesis of the join to the cursor. -/
  rest : List Char

/-- The join at a match of the join pattern in a line with the text `later` behind it. -/
def join? (line later : List Char) (m : Pattern.Match) : Option Join := do
  let paren ← m.group? 1
  let name ← m.group? 2
  some ⟨name.of (Text.dropReturns line), line.drop paren.start ++ later⟩

/-- The joins in a line with the text `later` behind it. -/
def joinsIn (line later : List Char) : List Join :=
  (joinPattern.findAll (Text.dropReturns line)).filterMap (join? line later)

/-- The table that a join settles, if its parenthesis counts as open. -/
def Join.table? (isOpen : List Char → Prop) [DecidablePred isOpen] (c : Catalog) (j : Join) :
    Option String :=
  if isOpen j.rest then tableName? c j.name else none

/-- The table that a line names outside of joins: in front of the first pipe, or at the
beginning. -/
def headTable? (c : Catalog) (line : List Char) : Option String :=
  if (Text.trim line).head? = some '|' then none
  else
    (if line.contains '|' then tableName? c (Text.trim (line.takeWhile (· != '|'))) else none).or
      ((leadingIdentifierPattern.findGroup? 1 line).bind (tableName? c))

/-- The table that a line settles: that of the last join that is open, or the one it names outside
of joins. -/
def lineTable? (isOpen : List Char → Prop) [DecidablePred isOpen] (c : Catalog)
    (line later : List Char) : Option String :=
  ((joinsIn line later).reverse.findSome? (Join.table? isOpen c)).or
    (headTable? c (Text.dropReturns line))

end TableScope

open TableScope

/-- The table in force at the end of a text, where `isOpen` tells of the text from a parenthesis to
the cursor whether the parenthesis is open. -/
def Catalog.tableScopeBy? (isOpen : List Char → Prop) [DecidablePred isOpen] (c : Catalog)
    (before : List Char) : Option String :=
  (statementsBack before).findSome? fun e => lineTable? isOpen c e.1 e.2

namespace TableScope

variable {isOpen isOpen' : List Char → Prop} [DecidablePred isOpen] [DecidablePred isOpen']
  {line later before : List Char} {j : Join}

/-! ### The scan by net depth -/

/-- The `\r` at the end of a line have no part in its net depth. -/
theorem netDepth_drop_dropReturns (line : List Char) (n : Nat) :
    netDepth ((Text.dropReturns line).drop n) = netDepth (line.drop n) := by
  have hreturns : ∀ d ∈ line.rtakeWhile (· == '\r'), d = '\r' := by
    intro d hd
    simpa using List.mem_rtakeWhile_imp hd
  have hsplit : line.drop n = (Text.dropReturns line).drop n ++
      (line.rtakeWhile (· == '\r')).drop (n - (Text.dropReturns line).length) := by
    rw [← List.drop_append]
    exact congrArg (List.drop n) List.rdropWhile_append_rtakeWhile.symm
  have hzero : ∀ d : Char, d ≠ '\r' →
      d ∉ (line.rtakeWhile (· == '\r')).drop (n - (Text.dropReturns line).length) := by
    intro d hne hd
    exact hne (hreturns d (List.mem_of_mem_drop hd))
  rw [hsplit, netDepth_append, netDepth_eq_zero (hzero _ (by decide)) (hzero _ (by decide)),
    add_zero]

theorem ofLine?_eq (c : Catalog) (later : Int) (line : List Char) :
    ofLine? c later line =
      if isIdle line then none
      else ((joinPattern.findAll line).reverse.findSome? (joined? c line later)).or
        (headTable? c line) := by
  rw [ofLine?]
  split
  · rfl
  · rw [headTable?]
    split
    · rw [Option.or_none]
    · rfl

theorem joined?_eq (c : Catalog) (line later : List Char) (m : Pattern.Match) :
    joined? c (Text.dropReturns line) (netDepth later) m =
      (join? line later m).bind (Join.table? (0 < netDepth ·) c) := by
  rw [joined?, join?]
  cases m.group? 1 with
  | none => rfl
  | some paren =>
    cases m.group? 2 with
    | none => rfl
    | some name =>
      simp only [Option.bind_eq_bind, Option.bind_some, Join.table?, netDepth_append,
        netDepth_drop_dropReturns]

theorem findSome?_joined? (c : Catalog) (line later : List Char) :
    (joinPattern.findAll (Text.dropReturns line)).reverse.findSome?
        (joined? c (Text.dropReturns line) (netDepth later)) =
      (joinsIn line later).reverse.findSome? (Join.table? (0 < netDepth ·) c) := by
  rw [joinsIn, ← List.filterMap_reverse, ← List.head?_filterMap, ← List.head?_filterMap,
    List.filterMap_filterMap]
  congr 2
  funext m
  exact joined?_eq c line later m

theorem ofLines?_eq (c : Catalog) (later : List Char) (lines : List (List Char)) :
    ofLines? c (netDepth later) lines =
      ((linesBack later lines).filter fun e => !isIdle (Text.dropReturns e.1)).findSome?
        fun e => lineTable? (0 < netDepth ·) c e.1 e.2 := by
  induction lines generalizing later with
  | nil => rfl
  | cons line lines ih =>
    have hlater : netDepth line + netDepth later = netDepth ('\n' :: line ++ later) := by
      rw [netDepth_append, netDepth_cons]
      simp [netDepth_singleton]
    rw [ofLines?, hlater, ih, ofLine?_eq, findSome?_joined?, linesBack]
    by_cases hidle : isIdle (Text.dropReturns line) = true
    · rw [List.filter_cons_of_neg (by simp [hidle]), if_pos hidle, Option.none_or]
    · rw [List.filter_cons_of_pos (by simp [hidle]), if_neg hidle, List.findSome?_cons, lineTable?]
      generalize (List.findSome? _ _).or _ = table
      cases table <;> rfl

/-! ### The scan by partners -/

/-- The group for the parenthesis of a join stands for that character alone. -/
theorem forallGroups_joinPattern :
    joinPattern.ForallGroups fun k a => k = 1 → a = .char '(' := by
  apply Pattern.forallGroups_sequence
  simp [Pattern.ForallGroups, Pattern.forallGroups_word, Pattern.sequence, Pattern.optional,
    Pattern.run1, Pattern.char, Context.blanks, Context.blanks1]

/-- The text from the parenthesis of a join on begins with that parenthesis. -/
theorem exists_rest_eq_of_mem_joinsIn (hj : j ∈ joinsIn line later) :
    ∃ rest, j.rest = '(' :: rest := by
  obtain ⟨m, hm, hjoin⟩ := List.mem_filterMap.mp hj
  cases hparen : m.group? 1 with
  | none => simp [join?, hparen] at hjoin
  | some paren =>
    cases hname : m.group? 2 with
    | none => simp [join?, hparen, hname] at hjoin
    | some name =>
      obtain rfl : _ = j := by simpa [join?, hparen, hname] using hjoin
      have hstart := Pattern.getElem?_start_of_mem_findAll forallGroups_joinPattern hm hparen
      -- without the `\r` at its end, the line is a beginning of the line
      obtain ⟨returns, hreturns⟩ : Text.dropReturns line <+: line := List.rdropWhile_prefix _ _
      have hline : (Text.dropReturns line ++ returns)[paren.start]? = some '(' := by
        rw [List.getElem?_append_left (List.getElem?_eq_some_iff.mp hstart).1, hstart]
      rw [hreturns] at hline
      obtain ⟨hlt, hget⟩ := List.getElem?_eq_some_iff.mp hline
      exact ⟨line.drop (paren.start + 1) ++ later, by
        rw [List.drop_eq_getElem_cons hlt, hget, List.cons_append]⟩

/-- The joins in the lines of a text that are neither blank nor comments. -/
def joinsBack (before : List Char) : List Join :=
  (statementsBack before).flatMap fun e => joinsIn e.1 e.2

/-- What counts is which joins of the text are taken for open. -/
theorem tableScopeBy?_congr (h : ∀ j ∈ joinsBack before, isOpen j.rest ↔ isOpen' j.rest)
    (c : Catalog) : c.tableScopeBy? isOpen before = c.tableScopeBy? isOpen' before := by
  have hline : ∀ e ∈ statementsBack before,
      lineTable? isOpen c e.1 e.2 = lineTable? isOpen' c e.1 e.2 := by
    intro e he
    rw [lineTable?, lineTable?, ← List.head?_filterMap, ← List.head?_filterMap]
    congr 2
    apply List.filterMap_congr
    intro j hj
    have hopen := h j (List.mem_flatMap.mpr ⟨e, he, List.mem_reverse.mp hj⟩)
    simp only [Join.table?, hopen]
  rw [Catalog.tableScopeBy?, Catalog.tableScopeBy?, ← List.head?_filterMap,
    ← List.head?_filterMap, List.filterMap_congr hline]

end TableScope

namespace Catalog

/-- The scan takes the parentheses for open from which on more are opened than closed. -/
theorem tableScope?_eq_tableScopeBy?_netDepth (c : Catalog) (before : List Char) :
    c.tableScope? before = c.tableScopeBy? (0 < netDepth ·) before :=
  ofLines?_eq c [] (Text.pieces before).reverse

/-- A join counts if its parenthesis is open, or if parentheses stay open behind the one that
closes it. In a text where this happens behind no closed join, the open joins alone count. -/
theorem tableScope?_eq_tableScopeBy?_isOpen (c : Catalog) (before : List Char) :
    c.tableScope? before =
        c.tableScopeBy? (fun rest => IsOpen rest ∨ StaysOpenBehind rest) before ∧
      ((∀ j ∈ joinsBack before, ¬ StaysOpenBehind j.rest) →
        c.tableScope? before = c.tableScopeBy? IsOpen before) := by
  have hcounts : c.tableScope? before =
      c.tableScopeBy? (fun rest => IsOpen rest ∨ StaysOpenBehind rest) before := by
    rw [tableScope?_eq_tableScopeBy?_netDepth]
    apply tableScopeBy?_congr
    intro j hj
    obtain ⟨e, -, hj⟩ := List.mem_flatMap.mp hj
    obtain ⟨rest, hrest⟩ := exists_rest_eq_of_mem_joinsIn hj
    rw [hrest]
    exact netDepth_pos_iff
  refine ⟨hcounts, fun hnone => ?_⟩
  rw [hcounts]
  apply tableScopeBy?_congr
  intro j hj
  exact or_iff_left (hnone j hj)

/-- A catalog with two tables. -/
def logsAndUsers : Catalog :=
  (Catalog.addTable ∅ { name := "Logs" }).addTable { name := "Users" }

/-- A closed join, with nothing open behind it, leaves the table in front of the pipe in force. -/
theorem tableScope?_eq_tableScopeBy?_isOpen_closedJoin :
    (∀ j ∈ joinsBack "Logs\n| join (Users | take (1)) on id\n| where (x) ".toList,
        ¬ StaysOpenBehind j.rest) ∧
      logsAndUsers.tableScope? "Logs\n| join (Users | take (1)) on id\n| where (x) ".toList =
        logsAndUsers.tableScopeBy? IsOpen
          "Logs\n| join (Users | take (1)) on id\n| where (x) ".toList := by
  have hnone : ∀ j ∈ joinsBack "Logs\n| join (Users | take (1)) on id\n| where (x) ".toList,
      ¬ StaysOpenBehind j.rest := by decide +kernel
  exact ⟨hnone, (tableScope?_eq_tableScopeBy?_isOpen logsAndUsers _).2 hnone⟩

/-- A closed join settles the table when a parenthesis is opened behind it. -/
theorem tableScope?_ne_tableScopeBy?_isOpen :
    logsAndUsers.tableScope? "Logs\n| join (Users) on id\n| where f(".toList = some "Users" ∧
      logsAndUsers.tableScopeBy? IsOpen "Logs\n| join (Users) on id\n| where f(".toList =
        some "Logs" := by
  constructor <;> decide +kernel

end Catalog

end QueryAssist
