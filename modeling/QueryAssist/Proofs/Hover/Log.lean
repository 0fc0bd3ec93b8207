import Mathlib.Data.List.Induction
import QueryAssist.Proofs.Hover.Card
import QueryAssist.Proofs.Hover.Session

/-!
# What a session remembers

A session holds one sample at most, and forgets how it came to it. The log of the hovers remembers:
which sample was drawn last, for which table, and what was hovered over since. What a session holds
and what a table shows can be read off the log.

## Main definitions

* `Hover.Visit`, `Hover.Log` — a hover looked back at, and the hovers so far
* `Log.lastDraw?`, `Log.sinceDraw` — the sample drawn last, and the hovers since
* `Log.kept?` — the sample drawn last, if nothing else has been hovered over since
* `Log.record` — the log of one more hover

## Main results

* `Log.hover_toSession` — a hover does to the session what it does to the log
* `Session.run_keeps_lastDraw` — after any hovers, a table shows the sample drawn last if that was
  its own and nothing else has been hovered over since, and a fresh one otherwise
-/

namespace QueryAssist.Hover

open Catalog (Table)

/-- A sample with the table that it was drawn for. -/
structure Draw where
  /-- The table. -/
  table : Table
  /-- The examples drawn. -/
  codes : List String
deriving DecidableEq, Repr

/-- A hover looked back at. -/
structure Visit where
  /-- The name in lower case of what was hovered over. -/
  symbol : String
  /-- The sample drawn, if one was drawn. -/
  draw : Option Draw
deriving DecidableEq, Repr

/-- The hovers so far. -/
structure Log (σ : Type) where
  /-- The hovers, the latest one first. -/
  visits : List Visit
  /-- The state of the sampler. -/
  state : σ

namespace Log

variable {σ : Type}

/-- The log before the first hover. -/
def start (state : σ) : Log σ := ⟨[], state⟩

/-- The samples drawn, the latest one first. -/
def draws (visits : List Visit) : List Draw := visits.filterMap (·.draw)

/-- The sample drawn last. -/
def lastDraw? (visits : List Visit) : Option Draw := (draws visits).head?

/-- The hovers since a sample was drawn. -/
def sinceDraw (visits : List Visit) : List Visit := visits.takeWhile (·.draw.isNone)

/-- The sample drawn last, if nothing but its table has been hovered over since. -/
def kept? (visits : List Visit) : Option Draw :=
  (lastDraw? visits).filter fun d =>
    (sinceDraw visits).all fun v => v.symbol == Text.lower d.table.name

/-- The sample that is kept, if its table has the name of the table `t`. -/
def keptFor? (t : Table) (visits : List Visit) : Option Draw :=
  (kept? visits).filter fun d => Text.lower d.table.name == Text.lower t.name

/-- The log of one more hover. A sample is drawn for a table with more than `count` examples if
there is none that is kept for it. -/
def record (sampler : Sampler σ) (count : Nat) (c : Catalog) (log : Log σ) (target : Target) :
    Log σ :=
  match (target.sampled? c count).filter fun t => (keptFor? t log.visits).isNone with
  | none => { log with visits := ⟨target.symbol c, none⟩ :: log.visits }
  | some t =>
    let (codes, state) := Session.draw sampler count t log.state
    ⟨⟨target.symbol c, some ⟨t, codes⟩⟩ :: log.visits, state⟩

/-- What a session holds after the hovers of a log. -/
def toSession (count : Nat) (log : Log σ) : Session σ :=
  ⟨(kept? log.visits).map fun d => ⟨Text.lower d.table.name, count, d.codes⟩, log.state⟩

/-! ### Looking back -/

variable {visits earlier : List Visit} {symbol : String} {d : Draw} {t : Table}

theorem lastDraw?_cons_some : lastDraw? (⟨symbol, some d⟩ :: earlier) = some d := rfl

theorem lastDraw?_cons_none : lastDraw? (⟨symbol, none⟩ :: earlier) = lastDraw? earlier := rfl

theorem sinceDraw_cons_none :
    sinceDraw (⟨symbol, none⟩ :: earlier) = ⟨symbol, none⟩ :: sinceDraw earlier := rfl

theorem mem_draws_of_lastDraw? (h : lastDraw? visits = some d) : d ∈ draws visits :=
  List.mem_of_mem_head? h

theorem kept?_eq_some_iff :
    kept? visits = some d ↔
      lastDraw? visits = some d ∧ ∀ v ∈ sinceDraw visits, v.symbol = Text.lower d.table.name := by
  simp [kept?, Option.filter_eq_some_iff]

theorem keptFor?_eq_some_iff :
    keptFor? t visits = some d ↔
      kept? visits = some d ∧ Text.lower d.table.name = Text.lower t.name := by
  simp [keptFor?, Option.filter_eq_some_iff]

theorem mem_draws_of_keptFor? (h : keptFor? t visits = some d) : d ∈ draws visits :=
  mem_draws_of_lastDraw? (kept?_eq_some_iff.mp (keptFor?_eq_some_iff.mp h).1).1

/-- A sample that has just been drawn is kept. -/
theorem kept?_cons_some : kept? (⟨symbol, some d⟩ :: earlier) = some d := by
  rw [kept?_eq_some_iff]
  exact ⟨lastDraw?_cons_some, nofun⟩

/-- A hover that draws nothing keeps the sample of its own name only. -/
theorem kept?_cons_none :
    kept? (⟨symbol, none⟩ :: earlier) =
      (kept? earlier).filter fun d => Text.lower d.table.name == symbol := by
  ext d
  simp only [Option.filter_eq_some_iff, kept?_eq_some_iff, lastDraw?_cons_none,
    sinceDraw_cons_none, List.forall_mem_cons, beq_iff_eq]
  grind

/-! ### One hover -/

variable {sampler : Sampler σ} {count : Nat} {c : Catalog} {log : Log σ} {target : Target}

theorem record_of_sampled?_eq_none (h : target.sampled? c count = none) :
    log.record sampler count c target =
      { log with visits := ⟨target.symbol c, none⟩ :: log.visits } := by
  simp [record, h]

theorem record_of_keptFor? (h : target.sampled? c count = some t)
    (hkept : keptFor? t log.visits = some d) :
    log.record sampler count c target =
      { log with visits := ⟨target.symbol c, none⟩ :: log.visits } := by
  simp [record, h, hkept, Option.filter]

theorem record_of_keptFor?_eq_none (h : target.sampled? c count = some t)
    (hkept : keptFor? t log.visits = none) :
    log.record sampler count c target =
      ⟨⟨target.symbol c, some ⟨t, (Session.draw sampler count t log.state).1⟩⟩ :: log.visits,
        (Session.draw sampler count t log.state).2⟩ := by
  simp [record, h, hkept, Option.filter]

/-- A table for which a sample is kept shows that sample. -/
theorem examples_of_keptFor? (hlt : count < t.examples.length)
    (hkept : keptFor? t log.visits = some d) :
    Session.examples sampler count t (log.toSession count) = (d.codes, log.toSession count) := by
  obtain ⟨hkept, hname⟩ := keptFor?_eq_some_iff.mp hkept
  refine Session.examples_of_sample hlt ?_
  rw [toSession, hkept, Option.map_some, hname]

/-- A table for which no sample is kept shows a fresh one. -/
theorem examples_of_keptFor?_eq_none (hlt : count < t.examples.length)
    (hkept : keptFor? t log.visits = none) :
    Session.examples sampler count t (log.toSession count) =
      ((Session.draw sampler count t log.state).1,
        ⟨some ⟨Text.lower t.name, count, (Session.draw sampler count t log.state).1⟩,
          (Session.draw sampler count t log.state).2⟩) := by
  refine Session.examples_of_fresh hlt ?_
  -- a sample of that name in the session is one that the log keeps
  rintro _ hsample ⟨hname, -⟩
  obtain ⟨d, hd, rfl⟩ := Option.map_eq_some_iff.mp hsample
  cases (keptFor?_eq_some_iff.mpr ⟨hd, hname⟩).symm.trans hkept

/-- A hover does to the session what it does to the log. -/
theorem hover_toSession :
    (Session.hover sampler count c target.token target.after (log.toSession count)).2 =
      (log.record sampler count c target).toSession count := by
  cases hsampled : target.sampled? c count with
  | none =>
    rw [Session.hover_of_sampled?_eq_none hsampled, record_of_sampled?_eq_none hsampled, toSession,
      toSession, kept?_cons_none, Option.filter_map, Function.comp_def]
  | some t =>
    obtain ⟨htable, hlt⟩ := Target.sampled?_eq_some_iff.mp hsampled
    rw [Session.hover_of_table? htable]
    cases hkept : keptFor? t log.visits with
    | none =>
      rw [examples_of_keptFor?_eq_none hlt hkept, record_of_keptFor?_eq_none hsampled hkept,
        toSession, kept?_cons_some]
      rfl
    | some d =>
      -- the hover has the name of the sample, so the log goes on keeping it
      obtain ⟨hd, hname⟩ := keptFor?_eq_some_iff.mp hkept
      rw [examples_of_keptFor? hlt hkept, record_of_keptFor? hsampled hkept, toSession, toSession,
        kept?_cons_none, hd, Target.symbol_of_table? htable, Option.filter_some,
        if_pos (beq_iff_eq.mpr hname)]

/-- The session has a sample if one has been drawn and only its table has been hovered over
since. -/
theorem isSome_sample_toSession :
    (log.toSession count).sample.isSome = true ↔
      (lastDraw? log.visits).isSome = true ∧
        ∀ d, lastDraw? log.visits = some d →
          ∀ v ∈ sinceDraw log.visits, v.symbol = Text.lower d.table.name := by
  rw [toSession, Option.isSome_map, Option.isSome_iff_exists]
  constructor
  · rintro ⟨d, hkept⟩
    obtain ⟨hlast, hsince⟩ := kept?_eq_some_iff.mp hkept
    rw [hlast]
    refine ⟨rfl, ?_⟩
    rintro _ ⟨⟩
    exact hsince
  · rintro ⟨hlast, hsince⟩
    obtain ⟨d, hlast⟩ := Option.isSome_iff_exists.mp hlast
    exact ⟨d, kept?_eq_some_iff.mpr ⟨hlast, hsince d hlast⟩⟩

/-- A table shows a selection of its examples, or the sample that is kept for it. -/
theorem isSelection_examples_or (sampler : Sampler σ) (count : Nat) (t : Table) (log : Log σ) :
    IsSelection count t (Session.examples sampler count t (log.toSession count)).1 ∨
      count < t.examples.length ∧ ∃ d, keptFor? t log.visits = some d ∧
        (Session.examples sampler count t (log.toSession count)).1 = d.codes := by
  rcases Nat.lt_or_ge count t.examples.length with hlt | hle
  · cases hkept : keptFor? t log.visits with
    | none =>
      left
      rw [examples_of_keptFor?_eq_none hlt hkept]
      exact isSelection_draw sampler log.state hlt.le
    | some d =>
      right
      rw [examples_of_keptFor? hlt hkept]
      exact ⟨hlt, d, rfl, rfl⟩
  · left
    rw [Session.examples_of_le hle]
    exact isSelection_shortestFirst hle

/-- The samples drawn after one more hover: those before, and perhaps one for the table hovered
over. -/
theorem mem_draws_record (h : d ∈ draws (log.record sampler count c target).visits) :
    d ∈ draws log.visits ∨
      (target.sampled? c count = some d.table ∧ IsSelection count d.table d.codes) := by
  cases hsampled : target.sampled? c count with
  | none =>
    rw [record_of_sampled?_eq_none hsampled] at h
    exact Or.inl h
  | some t =>
    cases hkept : keptFor? t log.visits with
    | none =>
      rw [record_of_keptFor?_eq_none hsampled hkept] at h
      rcases List.mem_cons.mp h with rfl | h
      · have hlt := (Target.sampled?_eq_some_iff.mp hsampled).2
        exact Or.inr ⟨rfl, isSelection_draw sampler log.state hlt.le⟩
      · exact Or.inl h
    | some d' =>
      rw [record_of_keptFor? hsampled hkept] at h
      exact Or.inl h

/-- After a table with more than `count` examples has been hovered over, a sample has been drawn. -/
theorem isSome_lastDraw?_record :
    (lastDraw? (log.record sampler count c target).visits).isSome = true ↔
      (lastDraw? log.visits).isSome = true ∨ (target.sampled? c count).isSome = true := by
  cases hsampled : target.sampled? c count with
  | none => simp [record_of_sampled?_eq_none hsampled, lastDraw?_cons_none]
  | some t =>
    cases hkept : keptFor? t log.visits with
    | none => simp [record_of_keptFor?_eq_none hsampled hkept, lastDraw?_cons_some]
    | some d' =>
      have hlast := (kept?_eq_some_iff.mp (keptFor?_eq_some_iff.mp hkept).1).1
      simp [record_of_keptFor? hsampled hkept, lastDraw?_cons_none, hlast]

/-! ### Many hovers -/

/-- The log of hovers, one after another. -/
def run (sampler : Sampler σ) (count : Nat) (c : Catalog) (log : Log σ) (targets : List Target) :
    Log σ :=
  targets.foldl (record sampler count c) log

end Log

namespace Session

variable {σ : Type}

/-- The session behind hovers, one after another. -/
def run (sampler : Sampler σ) (count : Nat) (c : Catalog) (s : Session σ) (targets : List Target) :
    Session σ :=
  targets.foldl (fun s target => (hover sampler count c target.token target.after s).2) s

end Session

namespace Log

variable {σ : Type} {sampler : Sampler σ} {count : Nat} {c : Catalog} {log : Log σ}

/-- Hovers do to the session what they do to the log. -/
theorem run_toSession (sampler : Sampler σ) (count : Nat) (c : Catalog) (log : Log σ)
    (targets : List Target) :
    (log.toSession count).run sampler count c targets =
      (log.run sampler count c targets).toSession count :=
  List.foldl_hom (toSession count) fun _ _ => hover_toSession

/-- Samples are drawn for tables that were hovered over, and are selections of their examples. -/
theorem mem_draws_run {d : Draw} {state : σ} {targets : List Target}
    (h : d ∈ draws ((start state).run sampler count c targets).visits) :
    (∃ target ∈ targets, target.sampled? c count = some d.table) ∧
      IsSelection count d.table d.codes := by
  induction targets using List.reverseRecOn with
  | nil => cases h
  | append_singleton targets target ih =>
    rw [run, List.foldl_append] at h
    rcases mem_draws_record h with h | ⟨hsampled, hselection⟩
    · obtain ⟨⟨target', hmem, hsampled⟩, hselection⟩ := ih h
      exact ⟨⟨target', List.mem_append_left _ hmem, hsampled⟩, hselection⟩
    · exact ⟨⟨target, List.mem_append_right _ List.mem_cons_self, hsampled⟩, hselection⟩

/-- A sample has been drawn if a table with more than `count` examples has been hovered over. -/
theorem isSome_lastDraw?_run {state : σ} {targets : List Target} :
    (lastDraw? ((start state).run sampler count c targets).visits).isSome = true ↔
      ∃ target ∈ targets, (target.sampled? c count).isSome = true := by
  induction targets using List.reverseRecOn with
  | nil => simp [run, start, lastDraw?, draws]
  | append_singleton targets target ih =>
    rw [run, List.foldl_append]
    refine isSome_lastDraw?_record.trans ?_
    rw [← run, ih]
    simp [or_and_right, exists_or]

/-- If no two tables have the same name up to case, then the sample kept for a table is the one
drawn last, it is that table's own, and nothing else has been hovered over since. -/
theorem keptFor?_run_eq_some_iff {state : σ} {targets : List Target} {target : Target} {t : Table}
    {d : Draw} (hnames : (c.tables.values.map fun t => Text.lower t.name).Nodup)
    (htable : target.table? c = some t) :
    keptFor? t ((start state).run sampler count c targets).visits = some d ↔
      lastDraw? ((start state).run sampler count c targets).visits = some d ∧ d.table = t ∧
        ∀ v ∈ sinceDraw ((start state).run sampler count c targets).visits,
          v.symbol = Text.lower t.name := by
  rw [keptFor?_eq_some_iff, kept?_eq_some_iff]
  constructor
  · rintro ⟨⟨hlast, hsince⟩, hname⟩
    obtain ⟨⟨target', -, hsampled⟩, -⟩ := mem_draws_run (mem_draws_of_lastDraw? hlast)
    -- both are tables of the catalog, with the same name
    have hown : d.table = t := List.inj_on_of_nodup_map hnames
      (Target.mem_values_of_table? (Target.sampled?_eq_some_iff.mp hsampled).1)
      (Target.mem_values_of_table? htable) hname
    exact ⟨hlast, hown, hown ▸ hsince⟩
  · rintro ⟨hlast, rfl, hsince⟩
    exact ⟨⟨hlast, hsince⟩, rfl⟩

end Log

namespace Session

/-- Let no two tables have the same name up to case. After any hovers, the session has a sample if
a table with more than `count` examples has been hovered over, and since the last draw only the
table of that draw. Such a table shows the sample drawn last if that was its own and nothing else
has been hovered over since, and a fresh one otherwise. What a table shows is always a selection of
its own examples, and all of them if there is room. To show examples is to have one block of code
for each of them on the card, in order, and no others. -/
theorem run_keeps_lastDraw {σ : Type} (sampler : Sampler σ) (count : Nat) (c : Catalog)
    (hnames : (c.tables.values.map fun t => Text.lower t.name).Nodup) (state : σ)
    (targets : List Target) :
    let s := (start state).run sampler count c targets
    let log := (Log.start state).run sampler count c targets
    s.state = log.state ∧
    (s.sample.isSome = true ↔
      (∃ target ∈ targets, (target.sampled? c count).isSome = true) ∧
        ∀ d, Log.lastDraw? log.visits = some d →
          ∀ v ∈ Log.sinceDraw log.visits, v.symbol = Text.lower d.table.name) ∧
    (∀ (target : Target) t, target.sampled? c count = some t →
      (∀ d, Log.lastDraw? log.visits = some d → d.table = t →
        (∀ v ∈ Log.sinceDraw log.visits, v.symbol = Text.lower t.name) →
        hover sampler count c target.token target.after s =
          (some (Card.ofTable c t d.codes), s)) ∧
      ((∀ d, Log.lastDraw? log.visits = some d → d.table = t →
          ∃ v ∈ Log.sinceDraw log.visits, v.symbol ≠ Text.lower t.name) →
        let fresh := draw sampler count t s.state
        hover sampler count c target.token target.after s =
            (some (Card.ofTable c t fresh.1),
              ⟨some ⟨Text.lower t.name, count, fresh.1⟩, fresh.2⟩) ∧
          Log.lastDraw? (log.record sampler count c target).visits = some ⟨t, fresh.1⟩)) ∧
    (∀ (target : Target) t, target.table? c = some t →
      (hover sampler count c target.token target.after s).1 =
          some (Card.ofTable c t (examples sampler count t s).1) ∧
        IsSelection count t (examples sampler count t s).1 ∧
        (t.examples.length ≤ count →
          (examples sampler count t s).1.Perm (t.examples.map (·.code)))) ∧
    ∀ (t : Table) codes, Card.IsTableCard c t codes (Card.ofTable c t codes) := by
  intro s log
  have hs : s = log.toSession count := Log.run_toSession sampler count c (.start state) targets
  -- all that follows is read off the log
  rw [hs]
  refine ⟨rfl, ?_, fun target t hsampled => ?_, fun target t htable => ?_,
    Card.isTableCard_ofTable c⟩
  · rw [Log.isSome_sample_toSession, Log.isSome_lastDraw?_run]
  · obtain ⟨htable, hlt⟩ := Target.sampled?_eq_some_iff.mp hsampled
    rw [hover_of_table? htable]
    refine ⟨fun d hlast hown hsince => ?_, fun hother => ?_⟩
    · have hkept := (Log.keptFor?_run_eq_some_iff hnames htable).mpr ⟨hlast, hown, hsince⟩
      rw [Log.examples_of_keptFor? hlt hkept]
    · have hkept : Log.keptFor? t log.visits = none := by
        rw [Option.eq_none_iff_forall_ne_some]
        intro d hkept
        obtain ⟨hlast, hown, hsince⟩ := (Log.keptFor?_run_eq_some_iff hnames htable).mp hkept
        obtain ⟨v, hv, hne⟩ := hother d hlast hown
        exact hne (hsince v hv)
      rw [Log.examples_of_keptFor?_eq_none hlt hkept,
        Log.record_of_keptFor?_eq_none hsampled hkept]
      exact ⟨rfl, rfl⟩
  · rw [hover_of_table? htable]
    have hselection : IsSelection count t (examples sampler count t (log.toSession count)).1 := by
      rcases Log.isSelection_examples_or sampler count t log with h | ⟨-, d, hkept, hcodes⟩
      · exact h
      · obtain ⟨hlast, rfl, -⟩ := (Log.keptFor?_run_eq_some_iff hnames htable).mp hkept
        rw [hcodes]
        exact (Log.mem_draws_run (Log.mem_draws_of_lastDraw? hlast)).2
    exact ⟨rfl, hselection, hselection.perm⟩

/-- A table with two examples. -/
def logs : Table :=
  { name := "Logs", examples := [⟨"Logs", none⟩, ⟨"Logs | take 1", none⟩] }

/-- Two tables, one of them with a single example. -/
def twoTables : Catalog :=
  ((∅ : Catalog).addTable logs).addTable { name := "Users", examples := [⟨"Users", none⟩] }

theorem run_keeps_lastDraw_twoTables :
    (twoTables.tables.values.map fun t => Text.lower t.name).Nodup ∧
      let s := (start 0).run .congruential 1 twoTables
        [⟨"Users", []⟩, ⟨"Logs", []⟩, ⟨"logs", []⟩]
      s.sample.isSome = true ∧
        hover .congruential 1 twoTables "LOGS" [] s =
          (some (Card.ofTable twoTables logs ["Logs"]), s) ∧
        Card.IsTableCard twoTables logs ["Logs"] (Card.ofTable twoTables logs ["Logs"]) := by
  have hnames : (twoTables.tables.values.map fun t => Text.lower t.name).Nodup := by
    decide +kernel
  obtain ⟨-, hsome, hshown, -, hcard⟩ := run_keeps_lastDraw .congruential 1 twoTables hnames 0
    [⟨"Users", []⟩, ⟨"Logs", []⟩, ⟨"logs", []⟩]
  have hlast : Log.lastDraw? ((Log.start 0).run .congruential 1 twoTables
      [⟨"Users", []⟩, ⟨"Logs", []⟩, ⟨"logs", []⟩]).visits = some ⟨logs, ["Logs"]⟩ := by
    decide +kernel
  have hsince : Log.sinceDraw ((Log.start 0).run .congruential 1 twoTables
      [⟨"Users", []⟩, ⟨"Logs", []⟩, ⟨"logs", []⟩]).visits = [⟨"logs", none⟩] := by
    decide +kernel
  have hname : Text.lower logs.name = "logs" := by decide +kernel
  refine ⟨hnames, hsome.mpr ⟨⟨⟨"Logs", []⟩, by simp, by decide +kernel⟩, ?_⟩, ?_, hcard logs _⟩
  · intro d hd
    cases hlast.symm.trans hd
    simp [hsince, hname]
  · have hsampled : (⟨"LOGS", []⟩ : Target).sampled? twoTables 1 = some logs := by decide +kernel
    exact (hshown ⟨"LOGS", []⟩ logs hsampled).1 _ hlast rfl (by simp [hsince, hname])

end Session

end QueryAssist.Hover
