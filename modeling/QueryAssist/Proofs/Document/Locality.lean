import Mathlib.Data.List.TakeDrop
import QueryAssist.Proofs.Document.TableScope
import QueryAssist.Proofs.Text.Lines

/-!
# The text above and below a line break

The scan for the table in force meets the lines next to the cursor first. What stands above a line
break counts only where the text below it settles no table, and then the text below has a part only
in which joins are taken for open. In this way the parentheses of a comment count as well.

## Main definitions

* `TableScope.behind` — the text that stands behind lines that go backwards

## Main results

* `tableScopeBy?_append_break` — the scan of a text that is cut at a line break
* `tableScope?_append_break` — a table settled below a line break is not changed from above
* `tableScope?_insert_idle` — a blank line changes nothing, nor does a comment, unless its
  parentheses open or close a join above it
* `tableScope?_insert_comment_ne` — a comment that closes a join
-/

namespace QueryAssist

open Text

namespace TableScope

variable {isOpen : List Char → Prop} [DecidablePred isOpen] {line : List Char}

/-! ### One text behind another -/

/-- The text behind the last of some lines that go backwards; `later` is the text behind the
first. -/
def behind (later : List Char) (lines : List (List Char)) : List Char :=
  lines.foldl (fun later line => '\n' :: line ++ later) later

theorem behind_reverse_pieces (text : List Char) :
    behind [] (pieces text).reverse = '\n' :: text := by
  have hjoin : ∀ ls : List (List Char), ls ≠ [] → behind [] ls.reverse = '\n' :: joinLines ls := by
    intro ls hne
    rw [behind, List.foldl_reverse]
    induction ls with
    | nil => exact (hne rfl).elim
    | cons line rest ih =>
      cases rest with
      | nil => simp [joinLines]
      | cons next rest =>
        rw [List.foldr_cons, ih (by simp), joinLines]
        rfl
  rw [hjoin _ (pieces_ne_nil text), joinLines_pieces]

theorem linesBack_append (later : List Char) (xs ys : List (List Char)) :
    linesBack later (xs ++ ys) = linesBack later xs ++ linesBack (behind later xs) ys := by
  induction xs generalizing later with
  | nil => rfl
  | cons line xs ih =>
    rw [List.cons_append, linesBack, ih]
    rfl

/-- What stands behind all lines stands behind each of them. -/
theorem linesBack_append_later (later b : List Char) (lines : List (List Char)) :
    linesBack (later ++ b) lines = (linesBack later lines).map fun e => (e.1, e.2 ++ b) := by
  induction lines generalizing later with
  | nil => rfl
  | cons line lines ih =>
    rw [linesBack, linesBack, List.map_cons, ← ih, List.append_assoc]

/-- The statements below a line break come first, and behind those above it the rest of the text
goes on. -/
theorem statementsBack_append_break (a b : List Char) :
    statementsBack (a ++ '\n' :: b) =
      statementsBack b ++ (statementsBack a).map fun e => (e.1, e.2 ++ '\n' :: b) := by
  rw [statementsBack, statementsBack, statementsBack, pieces_append_break, List.reverse_append,
    linesBack_append, behind_reverse_pieces, List.filter_append, ← List.nil_append ('\n' :: b),
    linesBack_append_later, List.filter_map]
  rfl

theorem joinsIn_append (line later b : List Char) :
    joinsIn line (later ++ b) =
      (joinsIn line later).map fun j => { j with rest := j.rest ++ b } := by
  rw [joinsIn, joinsIn, List.map_filterMap]
  congr 1
  funext m
  cases hparen : m.group? 1 <;> cases hname : m.group? 2 <;> simp [join?, hparen, hname]

theorem joinsBack_append_break (a b : List Char) :
    joinsBack (a ++ '\n' :: b) =
      joinsBack b ++ (joinsBack a).map fun j => { j with rest := j.rest ++ '\n' :: b } := by
  rw [joinsBack, joinsBack, joinsBack, statementsBack_append_break, List.flatMap_append,
    List.flatMap_map, List.map_flatMap]
  congr 2
  funext e
  exact joinsIn_append e.1 e.2 _

theorem lineTable?_append (c : Catalog) (line later b : List Char) :
    lineTable? isOpen c line (later ++ b) =
      lineTable? (fun rest => isOpen (rest ++ b)) c line later := by
  rw [lineTable?, lineTable?, joinsIn_append, ← List.map_reverse, List.findSome?_map]
  rfl

/-- Between two line breaks, a line is idle if it is blank or a comment. -/
theorem isIdle_dropReturns_iff :
    isIdle (dropReturns line) = true ↔ IsBlankText line ∨ "//".toList <+: trimStart line := by
  have hreturns : IsBlankText (line.rtakeWhile (· == '\r')) := by
    intro c hc
    obtain rfl : c = '\r' := by simpa using List.mem_rtakeWhile_imp hc
    decide
  have htrim : trim (dropReturns line) = trim line := by
    have hsplit : dropReturns line ++ line.rtakeWhile (· == '\r') = line :=
      List.rdropWhile_append_rtakeWhile
    rw [← trim_append_blank hreturns, hsplit]
  have hslashes : "//".toList <+: trim line ↔ "//".toList <+: trimStart line := by
    constructor
    · intro h
      exact h.trans (trimEnd_isPrefix _)
    · intro h
      exact isPrefix_trimEnd h (by decide)
  rw [isIdle, htrim, Bool.or_eq_true, List.isEmpty_iff, trim_eq_nil_iff,
    List.isPrefixOf_iff_prefix, hslashes]

theorem statementsBack_of_isIdle (hbreak : '\n' ∉ line) (hidle : isIdle (dropReturns line) = true) :
    statementsBack line = [] := by
  rw [statementsBack, pieces_of_notMem hbreak]
  simp [linesBack, hidle]

end TableScope

open TableScope

/-! ### The scan of a text cut in two -/

namespace Catalog

variable {isOpen : List Char → Prop} [DecidablePred isOpen] {above line : List Char}

/-- What the text below a line break leaves unsettled is settled above it, with the text below
behind every join. -/
theorem tableScopeBy?_append_break (c : Catalog) (a b : List Char) :
    c.tableScopeBy? isOpen (a ++ '\n' :: b) =
      (c.tableScopeBy? isOpen b).or
        (c.tableScopeBy? (fun rest => isOpen (rest ++ '\n' :: b)) a) := by
  rw [tableScopeBy?, tableScopeBy?, tableScopeBy?, statementsBack_append_break,
    List.findSome?_append, List.findSome?_map]
  congr 2
  funext e
  exact lineTable?_append c e.1 e.2 _

/-- A table that is settled below a line break stays settled whatever stands above it. Without a
table and without parentheses below it, the text above it decides alone. -/
theorem tableScope?_append_break (c : Catalog) (a b : List Char) :
    (∀ t, c.tableScope? b = some t → c.tableScope? (a ++ '\n' :: b) = some t) ∧
      (c.tableScope? b = none → '(' ∉ b → ')' ∉ b →
        c.tableScope? (a ++ '\n' :: b) = c.tableScope? a) := by
  rw [tableScope?_eq_tableScopeBy?_netDepth c (a ++ '\n' :: b), tableScopeBy?_append_break,
    ← tableScope?_eq_tableScopeBy?_netDepth]
  constructor
  · intro t ht
    rw [ht, Option.some_or]
  · intro hnone hopen hclose
    rw [hnone, Option.none_or, tableScope?_eq_tableScopeBy?_netDepth]
    apply tableScopeBy?_congr
    intro j _
    have hzero : netDepth ('\n' :: b) = 0 := by
      apply netDepth_eq_zero
      · simp [hopen]
      · simp [hclose]
    rw [netDepth_append, hzero, add_zero]

theorem tableScope?_append_break_logs :
    (logsAndUsers.tableScope? "Users\n| where (".toList = some "Users" ∧
        logsAndUsers.tableScope? ("Logs".toList ++ '\n' :: "Users\n| where (".toList) =
          some "Users") ∧
      (logsAndUsers.tableScope? "| where ".toList = none ∧ '(' ∉ "| where ".toList ∧
        ')' ∉ "| where ".toList ∧
        logsAndUsers.tableScope? ("Logs".toList ++ '\n' :: "| where ".toList) =
          logsAndUsers.tableScope? "Logs".toList) := by
  have hsome : logsAndUsers.tableScope? "Users\n| where (".toList = some "Users" := by
    decide +kernel
  have hnone : logsAndUsers.tableScope? "| where ".toList = none := by decide +kernel
  have hopen : '(' ∉ "| where ".toList := by decide
  have hclose : ')' ∉ "| where ".toList := by decide
  exact ⟨⟨hsome, (tableScope?_append_break logsAndUsers _ _).1 _ hsome⟩, hnone, hopen, hclose,
    (tableScope?_append_break logsAndUsers _ _).2 hnone hopen hclose⟩

/-! ### Blank lines and comments -/

/-- A line that is blank or a comment changes nothing but which joins above it are taken for open,
and nothing at all if a table is settled below it. -/
theorem tableScopeBy?_insert_idle (c : Catalog) (b : List Char)
    (habove : above = [] ∨ above.getLast? = some '\n') (hbreak : '\n' ∉ line)
    (hidle : isIdle (dropReturns line) = true)
    (hjoins : c.tableScopeBy? isOpen b = none → ∀ j ∈ joinsBack above,
      isOpen (j.rest ++ line ++ '\n' :: b) ↔ isOpen (j.rest ++ b)) :
    c.tableScopeBy? isOpen (above ++ line ++ '\n' :: b) = c.tableScopeBy? isOpen (above ++ b) := by
  have hline : c.tableScopeBy? isOpen (line ++ '\n' :: b) = c.tableScopeBy? isOpen b := by
    rw [tableScopeBy?_append_break]
    simp only [tableScopeBy?, statementsBack_of_isIdle hbreak hidle, List.findSome?_nil,
      Option.or_none]
  rcases habove with rfl | hlast
  · exact hline
  -- the line break above the line is that at which the text is cut
  obtain ⟨a, rfl⟩ := List.getLast?_eq_some_iff.mp hlast
  rw [List.append_assoc (a ++ ['\n']), ← List.append_cons, ← List.append_cons,
    tableScopeBy?_append_break, tableScopeBy?_append_break c a b, hline]
  cases hb : c.tableScopeBy? isOpen b with
  | some t => rfl
  | none =>
    apply tableScopeBy?_congr
    intro j hj
    have hmem : { j with rest := j.rest ++ ['\n'] } ∈ joinsBack (a ++ ['\n']) := by
      rw [joinsBack_append_break]
      exact List.mem_append_right _ (List.mem_map_of_mem hj)
    have hopen := hjoins hb _ hmem
    rwa [List.append_assoc (j.rest ++ ['\n']), ← List.append_cons, ← List.append_cons] at hopen

/-- A line that is blank or a comment makes no difference before the last line, unless it is a
comment whose parentheses open or close a join above it and no table is settled below it. -/
theorem tableScope?_insert_idle (c : Catalog) (b : List Char)
    (habove : above = [] ∨ above.getLast? = some '\n') (hbreak : '\n' ∉ line)
    (hidle : IsBlankText line ∨ "//".toList <+: trimStart line)
    (h : IsBlankText line ∨ c.tableScope? b ≠ none ∨ ∀ j ∈ joinsBack above,
      0 < netDepth (j.rest ++ line ++ '\n' :: b) ↔ 0 < netDepth (j.rest ++ b)) :
    c.tableScope? (above ++ line ++ '\n' :: b) = c.tableScope? (above ++ b) := by
  simp only [tableScope?_eq_tableScopeBy?_netDepth] at h ⊢
  apply tableScopeBy?_insert_idle c b habove hbreak (isIdle_dropReturns_iff.mpr hidle)
  rcases h with hblank | hsettled | hjoins
  · intro _ j _
    have hline : netDepth line = 0 :=
      netDepth_eq_zero (hblank.notMem (by decide)) (hblank.notMem (by decide))
    have hbelow : netDepth ('\n' :: b) = netDepth b := by
      rw [netDepth_cons, netDepth_singleton]
      simp
    simp only [netDepth_append, hline, hbelow, add_zero]
  · exact fun hnone => (hsettled hnone).elim
  · exact fun _ => hjoins

/-- A comment below an open join, with parentheses that match. -/
theorem tableScope?_insert_idle_matching :
    ("Logs\n| join (Users\n".toList = [] ∨ "Logs\n| join (Users\n".toList.getLast? = some '\n') ∧
      '\n' ∉ "// (x)".toList ∧ "//".toList <+: trimStart "// (x)".toList ∧
      (∀ j ∈ joinsBack "Logs\n| join (Users\n".toList,
        0 < netDepth (j.rest ++ "// (x)".toList ++ '\n' :: "| where ".toList) ↔
          0 < netDepth (j.rest ++ "| where ".toList)) ∧
      logsAndUsers.tableScope?
          ("Logs\n| join (Users\n".toList ++ "// (x)".toList ++ '\n' :: "| where ".toList) =
        logsAndUsers.tableScope? ("Logs\n| join (Users\n".toList ++ "| where ".toList) := by
  have habove : "Logs\n| join (Users\n".toList = [] ∨
      "Logs\n| join (Users\n".toList.getLast? = some '\n' := Or.inr (by decide)
  have hbreak : '\n' ∉ "// (x)".toList := by decide
  have hcomment : "//".toList <+: trimStart "// (x)".toList := by decide
  have hjoins : ∀ j ∈ joinsBack "Logs\n| join (Users\n".toList,
      0 < netDepth (j.rest ++ "// (x)".toList ++ '\n' :: "| where ".toList) ↔
        0 < netDepth (j.rest ++ "| where ".toList) := by decide +kernel
  exact ⟨habove, hbreak, hcomment, hjoins, tableScope?_insert_idle logsAndUsers _ habove hbreak
    (Or.inr hcomment) (Or.inr (Or.inr hjoins))⟩

/-- A comment that closes the parenthesis of a join. -/
theorem tableScope?_insert_comment_ne :
    "//".toList <+: trimStart "// a)".toList ∧
      logsAndUsers.tableScope? ("Logs\n| join (Users\n".toList ++ "| where ".toList) =
        some "Users" ∧
      logsAndUsers.tableScope?
          ("Logs\n| join (Users\n".toList ++ "// a)".toList ++ '\n' :: "| where ".toList) =
        some "Logs" := by
  refine ⟨?_, ?_, ?_⟩ <;> decide +kernel

end Catalog

end QueryAssist
