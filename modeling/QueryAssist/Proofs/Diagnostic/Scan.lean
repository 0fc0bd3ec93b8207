import Mathlib.Data.List.Basic
import Mathlib.Data.List.Pairwise
import QueryAssist.Document.Layout
import QueryAssist.Proofs.Diagnostic.Names
import QueryAssist.Proofs.StableSort

/-!
# The warnings of a scan

A warning is a remark on a name that is looked up. The names of a line come in the order of their
columns, so that sorting leaves the warnings in the order in which they were found.

## Main definitions

* `Diagnostic.Name` — a name that is looked up
* `Diagnostic.namesOf` — the names of a line
* `Diagnostic.content` — what a diagnostic says, apart from where

## Main results

* `exists_ofLine_eq`, `of_mem_ofLine` — the remarks on a line are those on its names and on its
  first pipe
* `pairwise_namesOfLine` — each name of a line begins behind the names before it
* `filter_isWarning_ofLine` — the warnings of a line are the remarks on its names
* `mem_scan_iff` — the diagnostics of a text are those of its lines
* `filter_isWarning_scan` — the warnings of a text are those of its lines, one after the other
* `map_content_filter_isWarning_scan` — what they say depends on the names only
-/

namespace QueryAssist.Diagnostic

open Text Pattern Literal

variable {c : Catalog} {settings : Settings} {lineNumber column : Nat} {line raw w : List Char}
  {d : Diagnostic}

/-- A name that is looked up. -/
inductive Name where
  /-- The beginning of a statement. -/
  | table (w : List Char)
  /-- A word behind a pipe. -/
  | operator (w : List Char)

/-- The characters of a name. -/
def Name.word : Name → List Char
  | table w => w
  | operator w => w

/-- The remark on an unknown name in a column of a line. -/
def unknownWord (settings : Settings) (what code : String) (lineNumber column : Nat)
    (w : List Char) (known : List String) : Diagnostic :=
  { unknownName settings what code lineNumber w ⟨0, w.length⟩ known with
    range := .onLine lineNumber column (column + w.length) }

/-- The remark on a name in a column of a line, if it is unknown. -/
def Name.remark? (c : Catalog) (settings : Settings) (lineNumber column : Nat) :
    Name → Option Diagnostic
  | table w =>
    if c.tables.isEmpty || beginsStatement c (String.ofList w) then none
    else
      let known := c.tables.values.map (·.name)
      some (unknownWord settings "table" unknownTable lineNumber column w known)
  | operator w =>
    let known := pipedNames c
    if known.isEmpty || known.any (sameIgnoringAsciiCase · (String.ofList w)) then none
    else some (unknownWord settings "operator" unknownOperator lineNumber column w known)

/-- The names of a line without literals and comments, with their columns. -/
def namesOf (line : List Char) : List (Nat × Name) :=
  ((statementName? line).map fun w => (0, Name.table w)).toList ++
    (pipedWords 0 line).map fun w => (w.1, Name.operator w.2)

/-- What a diagnostic says: the kind of remark, the message and the suggestions. -/
def content (d : Diagnostic) : Option String × String × List String :=
  (d.code, d.message, d.suggestions)

/-- What is said about a name, if it is unknown. -/
def Name.content? (c : Catalog) (settings : Settings) (name : Name) :
    Option (Option String × String × List String) :=
  (name.remark? c settings 0 0).map content

/-! ### The remark on a name -/

/-- What is said about a name does not depend on where it stands. -/
theorem Name.map_content_remark? (name : Name) :
    (name.remark? c settings lineNumber column).map content = name.content? c settings := by
  cases name with
  | table w =>
    rw [Name.content?, Name.remark?, Name.remark?]
    split <;> rfl
  | operator w =>
    rw [Name.content?, Name.remark?, Name.remark?]
    split <;> rfl

theorem Name.isWarning_of_remark? {name : Name}
    (h : name.remark? c settings lineNumber column = some d) : d.isWarning = true := by
  cases name <;>
  · simp only [Name.remark?] at h
    split at h
    · cases h
    · cases h
      rfl

/-- The remark on a name is about the columns of the name. -/
theorem Name.range_of_remark? {name : Name}
    (h : name.remark? c settings lineNumber column = some d) :
    d.range = .onLine lineNumber column (column + name.word.length) := by
  cases name <;>
  · simp only [Name.remark?] at h
    split at h
    · cases h
    · cases h
      rfl

theorem Name.start_of_remark? {name : Name}
    (h : name.remark? c settings lineNumber column = some d) :
    d.range.start = ⟨lineNumber, column⟩ := by
  rw [Name.range_of_remark? h]
  rfl

/-- A text covers itself. -/
theorem of_span_self (w : List Char) : Span.of ⟨0, w.length⟩ w = w := by simp [Span.of]

/-- The columns of a name determine the remark through the name they cover. -/
theorem unknownName_eq_unknownWord {stop : Nat} (settings : Settings) (what code : String)
    (lineNumber : Nat) (known : List String) (hstop : stop = column + w.length)
    (h : Span.of ⟨column, stop⟩ line = w) :
    unknownName settings what code lineNumber line ⟨column, stop⟩ known =
      unknownWord settings what code lineNumber column w known := by
  subst hstop
  simp only [unknownWord, unknownName, h, of_span_self]

/-! ### The warnings of a line -/

theorem ofStatementStart_eq (c : Catalog) (settings : Settings) (lineNumber : Nat)
    (line : List Char) :
    ofStatementStart c settings lineNumber line =
      ((statementName? line).map fun w => (0, Name.table w)).toList.filterMap
        fun n => n.2.remark? c settings lineNumber n.1 := by
  rw [ofStatementStart, group?_find?_statementStartPattern]
  cases hw : statementName? line with
  | none => rfl
  | some w =>
    have hspan := of_span_of_statementName? hw
    have hname := unknownName_eq_unknownWord settings "table" unknownTable lineNumber
      (c.tables.values.map (·.name)) (Nat.zero_add _).symm hspan
    simp only [Option.map_some, hspan, hname, Option.toList_some, List.filterMap_cons,
      List.filterMap_nil, Name.remark?]
    split <;> rfl

theorem ofPipedWords_eq (c : Catalog) (settings : Settings) (lineNumber : Nat) (line : List Char) :
    ofPipedWords c settings lineNumber line =
      ((pipedWords 0 line).map fun w => (w.1, Name.operator w.2)).filterMap
        fun n => n.2.remark? c settings lineNumber n.1 := by
  rw [ofPipedWords, List.filterMap_map]
  split
  · rename_i hknown
    simp [Name.remark?, hknown]
  · rename_i hknown
    -- the matches are gone through by the columns of their groups
    have hgroups := List.filterMap_filterMap (f := fun m : Match => m.group? 1)
      (g := fun span =>
        if (pipedNames c).any (sameIgnoringAsciiCase · (String.ofList (span.of line))) then none
        else some (unknownName settings "operator" unknownOperator lineNumber line span
          (pipedNames c))) (l := pipedWordPattern.findAll line)
    refine hgroups.symm.trans ?_
    rw [filterMap_group?_findAll_pipedWordPattern, List.filterMap_map]
    refine List.filterMap_congr fun w hw => ?_
    have hspan := of_span_of_mem_pipedWords hw
    simp [Name.remark?, hknown, hspan, unknownName_eq_unknownWord _ _ _ _ _ rfl hspan]

/-- The names of a line, with their columns. A line that is blank or a comment has none. -/
def namesOfLine (raw : List Char) : List (Nat × Name) :=
  if Layout.staysWhole 0 raw then [] else namesOf (mask raw)

/-- The remarks on a line are those on its names, and perhaps one on its first pipe. -/
theorem exists_ofLine_eq (c : Catalog) (settings : Settings) (lineNumber : Nat)
    (raw : List Char) :
    ∃ hints, (hints = [] ∨ hints = ofInlinePipe lineNumber (mask raw)) ∧
      ofLine c settings lineNumber raw =
        ((namesOfLine raw).filterMap fun n => n.2.remark? c settings lineNumber n.1) ++ hints := by
  have hstays : ((trim raw).isEmpty || "//".toList.isPrefixOf (trim raw)) =
      Layout.staysWhole 0 raw := by
    simp [Layout.staysWhole]
  rw [ofLine, namesOfLine]
  dsimp only
  rw [hstays]
  cases Layout.staysWhole 0 raw with
  | true => exact ⟨[], Or.inl rfl, rfl⟩
  | false =>
    rw [if_neg Bool.false_ne_true, if_neg Bool.false_ne_true, ofStatementStart_eq, ofPipedWords_eq,
      ← List.filterMap_append, ← namesOf]
    cases settings.pipeStyleHints && (trim raw).head? != some '|' with
    | true => exact ⟨_, Or.inr rfl, rfl⟩
    | false => exact ⟨_, Or.inl rfl, rfl⟩

/-- The remark on the first pipe of a line is about that pipe, and it is no warning. -/
theorem of_mem_ofInlinePipe {l : List Char} (h : d ∈ ofInlinePipe lineNumber l) :
    ∃ column, l[column]? = some '|' ∧ d.range = .onLine lineNumber column (column + 1) ∧
      d.code = some pipeStyle ∧ d.isWarning = false := by
  unfold ofInlinePipe at h
  split at h
  · cases h
  · rename_i column hcolumn
    obtain ⟨hlt, hbar, -⟩ := List.findIdx?_eq_some_iff_getElem.mp hcolumn
    refine ⟨column, ?_, ?_⟩
    · rw [List.getElem?_eq_getElem hlt, beq_iff_eq.mp hbar]
    · rw [List.mem_singleton.mp h]
      exact ⟨rfl, rfl, rfl⟩

/-- A remark on a line is on one of its names, or on its first pipe. -/
theorem of_mem_ofLine (h : d ∈ ofLine c settings lineNumber raw) :
    (∃ n ∈ namesOfLine raw, n.2.remark? c settings lineNumber n.1 = some d) ∨
      d ∈ ofInlinePipe lineNumber (mask raw) := by
  obtain ⟨hints, hhints, hline⟩ := exists_ofLine_eq c settings lineNumber raw
  rw [hline, List.mem_append] at h
  rcases h with h | h
  · exact Or.inl (List.mem_filterMap.mp h)
  · rcases hhints with rfl | rfl
    · cases h
    · exact Or.inr h

/-- The warnings of a line are the remarks on its names. -/
theorem filter_isWarning_ofLine (c : Catalog) (settings : Settings) (lineNumber : Nat)
    (raw : List Char) :
    (ofLine c settings lineNumber raw).filter (·.isWarning) =
      (namesOfLine raw).filterMap fun n => n.2.remark? c settings lineNumber n.1 := by
  obtain ⟨hints, hhints, hline⟩ := exists_ofLine_eq c settings lineNumber raw
  have hwarnings : ∀ d ∈ (namesOfLine raw).filterMap
      (fun n => n.2.remark? c settings lineNumber n.1), d.isWarning = true := by
    intro d hd
    obtain ⟨n, -, hn⟩ := List.mem_filterMap.mp hd
    exact Name.isWarning_of_remark? hn
  have hnone : hints.filter (·.isWarning) = [] := by
    rcases hhints with rfl | rfl
    · rfl
    · refine List.filter_eq_nil_iff.mpr fun d hd => ?_
      obtain ⟨-, -, -, -, hwarning⟩ := of_mem_ofInlinePipe hd
      rw [hwarning]
      exact Bool.false_ne_true
  rw [hline, List.filter_append, List.filter_eq_self.mpr hwarnings, hnone, List.append_nil]

/-- Each name of a line begins behind the names before it. -/
theorem pairwise_namesOf (line : List Char) :
    (namesOf line).Pairwise fun n n' => n.1 + n.2.word.length ≤ n'.1 := by
  refine List.pairwise_append.mpr ⟨?_, List.pairwise_map.mpr (pairwise_pipedWords 0 line), ?_⟩
  · cases statementName? line with
    | none => exact List.Pairwise.nil
    | some w => exact List.pairwise_singleton _ _
  · -- the name at the beginning has no pipe, so the pipes come behind it
    intro n hn n' hn'
    obtain ⟨w, hw, rfl⟩ := Option.map_eq_some_iff.mp (Option.mem_toList.mp hn)
    obtain ⟨⟨column, w'⟩, hword, rfl⟩ := List.mem_map.mp hn'
    obtain ⟨rest, rfl⟩ := statementName?_isPrefix hw
    rw [pipedWords_append_of_bar_notMem (bar_notMem_of_statementName? hw)] at hword
    obtain ⟨a, b, -, rfl⟩ := exists_eq_append_of_mem_pipedWords hword
    change 0 + w.length ≤ 0 + w.length + a.length
    omega

theorem pairwise_namesOfLine (raw : List Char) :
    (namesOfLine raw).Pairwise fun n n' => n.1 + n.2.word.length ≤ n'.1 := by
  rw [namesOfLine]
  split
  · exact List.Pairwise.nil
  · exact pairwise_namesOf (mask raw)

/-! ### The order of positions -/

theorem precedes_iff {p q : Position} :
    p.precedes q = true ↔ p.line < q.line ∨ p.line = q.line ∧ p.column ≤ q.column := by
  simp only [Position.precedes, Bool.or_eq_true, Bool.and_eq_true, decide_eq_true_eq, beq_iff_eq]

theorem precedes_of_line_lt {p q : Position} (h : p.line < q.line) : p.precedes q = true :=
  precedes_iff.mpr (Or.inl h)

theorem precedes_trans (p q r : Position) (h : p.precedes q = true) (h' : q.precedes r = true) :
    p.precedes r = true := by
  rw [precedes_iff] at h h' ⊢
  omega

theorem precedes_total (p q : Position) : (p.precedes q || q.precedes p) = true := by
  rw [Bool.or_eq_true, precedes_iff, precedes_iff]
  omega

/-! ### The warnings of a text -/

/-- The diagnostics of a text are those of its lines. -/
theorem mem_scan_iff {text : List Char} :
    d ∈ scan c settings text ↔
      ∃ n raw, (lines text)[n]? = some raw ∧ d ∈ ofLine c settings n raw := by
  rw [scan, List.mem_mergeSort, List.mem_flatMap]
  constructor
  · rintro ⟨⟨raw, n⟩, hl, hd⟩
    exact ⟨n, raw, List.mem_zipIdx_iff_getElem?.mp hl, hd⟩
  · rintro ⟨n, raw, hraw, hd⟩
    exact ⟨(raw, n), List.mem_zipIdx_iff_getElem?.mpr hraw, hd⟩

/-- The warnings of lines stand in the order in which they are found. -/
theorem pairwise_precedes_remarks (c : Catalog) (settings : Settings) (ls : List (List Char)) :
    (ls.zipIdx.flatMap fun l =>
      (namesOfLine l.1).filterMap fun n => n.2.remark? c settings l.2 n.1).Pairwise
        fun d d' => d.range.start.precedes d'.range.start = true := by
  have hlines : ls.zipIdx.Pairwise fun l l' => l.2 < l'.2 := by
    have hrange := List.pairwise_lt_range' (s := 0) (n := ls.length) 1
    rw [← List.zipIdx_map_snd] at hrange
    exact List.pairwise_map.mp hrange
  refine List.pairwise_flatMap.mpr ⟨fun l _ => ?_, hlines.imp ?_⟩
  · -- on one line the columns decide
    refine (pairwise_namesOfLine l.1).filterMap _ ?_
    intro n n' hcolumns d hd d' hd'
    have hle : n.1 ≤ n'.1 := by omega
    rw [Name.start_of_remark? hd, Name.start_of_remark? hd', precedes_iff]
    exact Or.inr ⟨rfl, hle⟩
  · -- remarks on different lines are in the order of the lines
    intro l l' hlt d hd d' hd'
    obtain ⟨n, -, hn⟩ := List.mem_filterMap.mp hd
    obtain ⟨n', -, hn'⟩ := List.mem_filterMap.mp hd'
    rw [Name.start_of_remark? hn, Name.start_of_remark? hn']
    exact precedes_of_line_lt hlt

/-- The warnings of a text are those of its lines, one line after the other. -/
theorem filter_isWarning_scan (c : Catalog) (settings : Settings) (text : List Char) :
    (scan c settings text).filter (·.isWarning) =
      (lines text).zipIdx.flatMap fun l =>
        (namesOfLine l.1).filterMap fun n => n.2.remark? c settings l.2 n.1 := by
  have hfound : ((lines text).zipIdx.flatMap fun l => ofLine c settings l.2 l.1).filter
      (·.isWarning) = (lines text).zipIdx.flatMap fun l =>
        (namesOfLine l.1).filterMap fun n => n.2.remark? c settings l.2 n.1 := by
    rw [List.filter_flatMap]
    simp only [filter_isWarning_ofLine]
  -- the warnings are found in order, and sorting moves only the other remarks
  rw [scan, filter_mergeSort_of_pairwise, hfound]
  · exact fun _ _ _ => precedes_trans _ _ _
  · exact fun _ _ => precedes_total _ _
  · rw [hfound]
    exact pairwise_precedes_remarks c settings (lines text)

/-- What the warnings of a text say depends on the names in its lines only. -/
theorem map_content_filter_isWarning_scan (c : Catalog) (settings : Settings) (text : List Char) :
    ((scan c settings text).filter (·.isWarning)).map content =
      ((lines text).flatMap fun l => (namesOfLine l).map (·.2)).filterMap
        (·.content? c settings) := by
  have hlines := List.zipIdx_map_fst 0 (lines text)
  conv_rhs => rw [← hlines]
  rw [filter_isWarning_scan, List.map_flatMap, List.flatMap_map, List.filterMap_flatMap]
  simp only [List.map_filterMap, Name.map_content_remark?, List.filterMap_map, Function.comp_def]

end QueryAssist.Diagnostic
