import Mathlib.Data.List.Induction
import Mathlib.Data.Fin.VecNotation
import Mathlib.Logic.Function.Basic
import Mathlib.Order.Bounds.Basic
import QueryAssist.Assistant
import QueryAssist.Proofs.Diagnostic.Tracker

/-!
# Updates of one document at the same time

Several updates bring one document up to date, each in two steps: it begins a scan, and if it was
handed a ticket it publishes what the scan has found. The steps of different updates come in any
order. A schedule is the list of the updates in the order in which they take their steps.

## Main definitions

* `Tracker.Update` — the version an update takes up and the diagnostics its scan finds
* `Tracker.Updates` — how far each update has come, and the tracker they share
* `Updates.run` — the updates after the steps of a schedule
* `Updates.Leads` — an update was handed the last ticket

## Main results

* `tracker_updateDocument` — the two steps of an update are what the assistant does at once
* `consistent_run` — what holds after every schedule
* `get?_lastWriteWins` — no earlier version ever comes in sight, and in the end the diagnostics of
  the last update that was accepted are in sight, under the greatest version
-/

namespace QueryAssist.Tracker

/-- The version of a document that an update takes up, and the diagnostics its scan finds. -/
structure Update where
  /-- The version. -/
  version : Int
  /-- The diagnostics of the version. -/
  diagnostics : List Diagnostic

/-- What an update puts in sight when its result counts. -/
def Update.result (u : Update) : DiagnosticSet := ⟨u.version, u.diagnostics⟩

/-- How far an update has come. -/
inductive Update.Phase where
  /-- It has not begun. -/
  | waiting
  /-- It has been handed a ticket and is to publish its result. -/
  | scanning (ticket : Ticket)
  /-- It has published its result, or was refused a ticket. -/
  | finished
deriving DecidableEq

/-- Updates of one document, and the tracker they share. -/
structure Updates (ι : Type*) where
  /-- The tracker. -/
  tracker : Tracker := ∅
  /-- How far each update has come. -/
  phase : ι → Update.Phase := fun _ => .waiting
  /-- The update that was handed the last ticket. -/
  lastAccepted : Option ι := none

namespace Updates

variable {ι : Type*} [DecidableEq ι]

/-- The next step of the update `i`: it begins its scan or publishes its result. An update that is
finished has no steps left. -/
def step (uri : String) (updates : ι → Update) (s : Updates ι) (i : ι) : Updates ι :=
  match s.phase i with
  | .waiting =>
    match s.tracker.begin uri (updates i).version with
    | (none, t) => { s with tracker := t, phase := Function.update s.phase i .finished }
    | (some ticket, t) => ⟨t, Function.update s.phase i (.scanning ticket), some i⟩
  | .scanning ticket =>
    { s with
      tracker := (s.tracker.publish ticket (updates i).diagnostics).2
      phase := Function.update s.phase i .finished }
  | .finished => s

/-- The updates after the steps of a schedule, which begins with an empty tracker. -/
def run (uri : String) (updates : ι → Update) (schedule : List ι) : Updates ι :=
  schedule.foldl (step uri updates) {}

/-- Every update has taken all its steps. -/
def AllFinished (s : Updates ι) : Prop := ∀ i, s.phase i = .finished

variable {uri k : String} {updates : ι → Update} {s : Updates ι} {i j : ι} {d : Document}
  {ticket : Ticket} {set : DiagnosticSet}

/-! ### Single steps -/

theorem step_of_finished (h : s.phase i = .finished) : step uri updates s i = s := by
  simp [step, h]

theorem step_of_scanning (h : s.phase i = .scanning ticket) :
    step uri updates s i =
      ⟨(s.tracker.publish ticket (updates i).diagnostics).2,
        Function.update s.phase i .finished, s.lastAccepted⟩ := by
  simp [step, h]

theorem step_of_isStale (h : s.phase i = .waiting)
    (hstale : s.tracker.IsStale uri (updates i).version) :
    step uri updates s i =
      ⟨s.tracker, Function.update s.phase i .finished, s.lastAccepted⟩ := by
  simp [step, h, begin_of_isStale hstale]

theorem step_of_not_isStale (h : s.phase i = .waiting)
    (hstale : ¬ s.tracker.IsStale uri (updates i).version) :
    step uri updates s i =
      ⟨s.tracker.withTicket uri (updates i).version,
        Function.update s.phase i (.scanning ⟨s.tracker.issued, uri, (updates i).version⟩),
        some i⟩ := by
  simp [step, h, begin_of_not_isStale hstale]

/-- An update that takes its two steps one right after the other does what an assistant does when
it brings a document up to date. -/
theorem tracker_updateDocument {σ : Type} (a : Assistant σ) (text : String) (version : Int)
    (hs : s.tracker = a.tracker) (hi : s.phase i = .waiting)
    (hupdate : updates i = ⟨version, Diagnostic.scan a.store.catalog a.settings text.toList⟩) :
    (step uri updates (step uri updates s i) i).tracker =
      (a.updateDocument uri version text).2.tracker := by
  by_cases hstale : a.tracker.IsStale uri version
  · have hstale' : s.tracker.IsStale uri (updates i).version := by
      rw [hs, hupdate]
      exact hstale
    have hfirst := step_of_isStale hi hstale'
    rw [hfirst, step_of_finished (Function.update_self i _ _), Assistant.updateDocument,
      begin_of_isStale hstale]
    exact hs
  · have hstale' : ¬ s.tracker.IsStale uri (updates i).version := by
      rw [hs, hupdate]
      exact hstale
    have hfirst := step_of_not_isStale hi hstale'
    rw [hfirst, step_of_scanning (Function.update_self i _ _), Assistant.updateDocument,
      begin_of_not_isStale hstale, hs, hupdate]
    by_cases hcancelled : (a.tracker.withTicket uri version).isCancelled a.tracker.issued = true
    · have hrefused : ¬ (a.tracker.withTicket uri version).Accepts
          ⟨a.tracker.issued, uri, version⟩ := by
        rintro ⟨_, _, hlive, _⟩
        exact Bool.false_ne_true (hlive.symm.trans hcancelled)
      simp [Diagnostic.scanUnless, hcancelled, publish_of_not_accepts hrefused]
    · simp [Diagnostic.scanUnless, hcancelled]

/-! ### What holds after every schedule -/

/-- The update `i` was handed the last ticket, and `d` is known about the document. -/
structure Leads (uri : String) (updates : ι → Update) (s : Updates ι) (i : ι) (d : Document) :
    Prop where
  /-- The document is tracked. -/
  document : s.tracker.document? uri = some d
  /-- Its version is the one that the update takes up. -/
  version : d.latestVersion = (updates i).version
  /-- No update that has begun takes up a later version. -/
  greatest : ∀ j, s.phase j ≠ .waiting → (updates j).version ≤ (updates i).version
  /-- The tickets of all other updates have been cancelled. -/
  others : ∀ j ticket, j ≠ i → s.phase j = .scanning ticket →
    s.tracker.isCancelled ticket.number = true
  /-- Its scan is going on, or its result is in sight. -/
  progress : (∃ n, s.phase i = .scanning ⟨n, uri, (updates i).version⟩ ∧ d.inFlight = some n) ∨
    (s.phase i = .finished ∧ d.published = some (updates i).result)

/-- What holds after every schedule: as long as no ticket has been handed out nothing is known
about the document, and from then on some update leads. -/
structure Consistent (uri : String) (updates : ι → Update) (s : Updates ι) : Prop where
  /-- The tracker is well-formed. -/
  wellFormed : s.tracker.WellFormed
  /-- Nothing has happened before the first ticket. -/
  untouched : s.lastAccepted = none →
    s.tracker.document? uri = none ∧ ∀ i, s.phase i = .waiting
  /-- The update with the last ticket leads. -/
  leads : ∀ i, s.lastAccepted = some i → ∃ d, Leads uri updates s i d

omit [DecidableEq ι] in
theorem consistent_start (uri : String) (updates : ι → Update) :
    Consistent uri updates ({} : Updates ι) where
  wellFormed := wellFormed_empty
  untouched _ := ⟨document?_empty, fun _ => rfl⟩
  leads _ h := by cases h

omit [DecidableEq ι] in
theorem Consistent.exists_leads (h : Consistent uri updates s) (hj : s.phase j ≠ .waiting) :
    ∃ i d, s.lastAccepted = some i ∧ Leads uri updates s i d := by
  cases hlast : s.lastAccepted with
  | none => exact (hj ((h.untouched hlast).2 j)).elim
  | some i =>
    obtain ⟨d, hd⟩ := h.leads i hlast
    exact ⟨i, d, rfl, hd⟩

omit [DecidableEq ι] in
/-- A version of the document has been taken up. -/
theorem Leads.isSeen (h : Leads uri updates s i d) : d.isSeen = true := by
  rcases h.progress with ⟨n, _, hflight⟩ | ⟨_, hpublished⟩
  · exact isSeen_of_inFlight hflight
  · exact isSeen_of_published hpublished

/-- An update that finishes is not scanning, and the others are as they were. -/
theorem scanning_of_update_finished {phase : ι → Update.Phase} {k : ι}
    (h : Function.update phase j .finished k = .scanning ticket) : phase k = .scanning ticket := by
  rcases eq_or_ne k j with rfl | hkj
  · rw [Function.update_self] at h
    cases h
  · rwa [Function.update_of_ne hkj] at h

/-- An update that is refused a ticket leaves the leading update in the lead. -/
theorem Leads.step_of_isStale (h : Leads uri updates s i d) (hj : s.phase j = .waiting)
    (hstale : s.tracker.IsStale uri (updates j).version) :
    Leads uri updates (step uri updates s j) i d := by
  obtain ⟨d', hd', hseen, hlt⟩ := hstale
  obtain rfl : d = d' := Option.some.inj (h.document.symm.trans hd')
  -- the leading update has taken up the version of the document, so it is not the refused one
  have hij : i ≠ j := by
    rintro rfl
    exact (h.version ▸ hlt).false
  rw [Updates.step_of_isStale hj ⟨d, hd', hseen, hlt⟩]
  refine ⟨h.document, h.version, fun k hk => ?_, fun k ticket hki hk => ?_, ?_⟩
  · rcases eq_or_ne k j with rfl | hkj
    · exact h.version ▸ hlt.le
    · exact h.greatest k (by simpa [hkj] using hk)
  · exact h.others k ticket hki (scanning_of_update_finished hk)
  · simpa [hij] using h.progress

/-- A result whose ticket has been cancelled is dropped. -/
theorem Leads.step_of_scanning_ne (h : Leads uri updates s i d) (hij : i ≠ j)
    (hj : s.phase j = .scanning ticket) : Leads uri updates (step uri updates s j) i d := by
  have hrefused : ¬ s.tracker.Accepts ticket := by
    rintro ⟨_, _, hlive, _⟩
    exact Bool.false_ne_true (hlive.symm.trans (h.others j ticket hij.symm hj))
  rw [step_of_scanning hj, publish_of_not_accepts hrefused]
  refine ⟨h.document, h.version, fun k hk => ?_, fun k ticket hki hk => ?_, ?_⟩
  · rcases eq_or_ne k j with rfl | hkj
    · exact h.greatest k (by simp [hj])
    · exact h.greatest k (by simpa [hkj] using hk)
  · exact h.others k ticket hki (scanning_of_update_finished hk)
  · simpa [hij] using h.progress

/-- The leading update puts its result in sight. -/
theorem Leads.step_of_scanning_self (h : Leads uri updates s i d) (hs : s.tracker.WellFormed)
    (hi : s.phase i = .scanning ticket) :
    Leads uri updates (step uri updates s i) i
      ⟨(updates i).version, none, some (updates i).result⟩ := by
  -- the ticket in flight is the one that was handed to this update, and is not cancelled
  obtain ⟨n, hphase, hflight⟩ : ∃ n, s.phase i = .scanning ⟨n, uri, (updates i).version⟩ ∧
      d.inFlight = some n := by
    rcases h.progress with hgoing | ⟨hdone, _⟩
    · exact hgoing
    · cases hi.symm.trans hdone
  have haccepts : s.tracker.Accepts ⟨n, uri, (updates i).version⟩ :=
    ⟨d, h.document, hs.inFlight_live h.document hflight, h.version.symm⟩
  rw [step_of_scanning hphase, publish_of_accepts haccepts]
  refine ⟨?_, rfl, fun k hk => ?_, fun k ticket hki hk => ?_, Or.inr ⟨?_, rfl⟩⟩
  · rw [document?_setDocument, if_pos rfl]
    rfl
  · rcases eq_or_ne k i with rfl | hki
    · exact le_rfl
    · exact h.greatest k (by simpa [hki] using hk)
  · rw [isCancelled_setDocument]
    exact h.others k ticket hki (scanning_of_update_finished hk)
  · simp

/-- An update that is handed a ticket takes the lead. -/
theorem Consistent.leads_step_of_not_isStale (h : Consistent uri updates s)
    (hj : s.phase j = .waiting) (hstale : ¬ s.tracker.IsStale uri (updates j).version) :
    Leads uri updates (step uri updates s j) j
      ⟨(updates j).version, some s.tracker.issued, s.tracker.get? uri⟩ := by
  rw [step_of_not_isStale hj hstale]
  refine ⟨?_, rfl, fun k hk => ?_, fun k ticket hkj hk => ?_, Or.inl ⟨_, ?_, rfl⟩⟩
  · rw [document?_withTicket, if_pos rfl]
  · rcases eq_or_ne k j with rfl | hkj
    · exact le_rfl
    · -- whoever led before has the version that this update is not behind
      obtain ⟨i, d, _, hlead⟩ := h.exists_leads (j := k) (by simpa [hkj] using hk)
      calc (updates k).version
        _ ≤ (updates i).version := hlead.greatest k (by simpa [hkj] using hk)
        _ = d.latestVersion := hlead.version.symm
        _ ≤ (updates j).version :=
          not_lt.mp fun hlt => hstale ⟨d, hlead.document, hlead.isSeen, hlt⟩
  · -- the scan that was going on is cancelled, the earlier ones have been cancelled before
    have hk' : s.phase k = .scanning ticket := by simpa [hkj] using hk
    obtain ⟨i, d, _, hlead⟩ := h.exists_leads (j := k) (by simp [hk'])
    rw [isCancelled_withTicket]
    rcases eq_or_ne k i with rfl | hki
    · rcases hlead.progress with ⟨n, hphase, hflight⟩ | ⟨hdone, _⟩
      · cases hk'.symm.trans hphase
        exact Or.inr (by rw [hlead.document]; exact hflight)
      · cases hk'.symm.trans hdone
    · exact Or.inl (hlead.others k ticket hki hk')
  · simp

/-- Every step keeps the updates consistent. -/
theorem Consistent.step (h : Consistent uri updates s) (j : ι) :
    Consistent uri updates (step uri updates s j) := by
  cases hj : s.phase j with
  | finished =>
    rw [step_of_finished hj]
    exact h
  | scanning ticket =>
    obtain ⟨i, d, hlast, hlead⟩ := h.exists_leads (j := j) (by simp [hj])
    have hnext : ∃ d', Leads uri updates (Updates.step uri updates s j) i d' := by
      rcases eq_or_ne i j with rfl | hij
      · exact ⟨_, hlead.step_of_scanning_self h.wellFormed hj⟩
      · exact ⟨d, hlead.step_of_scanning_ne hij hj⟩
    rw [step_of_scanning hj] at hnext ⊢
    refine ⟨h.wellFormed.publish _ _, fun hnone => ?_, fun k hk => ?_⟩
    · cases hlast.symm.trans hnone
    · cases hlast.symm.trans hk
      exact hnext
  | waiting =>
    by_cases hstale : s.tracker.IsStale uri (updates j).version
    · have hnext := fun i d (hlead : Leads uri updates s i d) => hlead.step_of_isStale hj hstale
      rw [step_of_isStale hj hstale] at hnext ⊢
      refine ⟨h.wellFormed, fun hnone => ?_, fun k hk => ?_⟩
      · obtain ⟨d, hd, _⟩ := hstale
        cases hd.symm.trans (h.untouched hnone).1
      · obtain ⟨d, hlead⟩ := h.leads k hk
        exact ⟨d, hnext k d hlead⟩
    · have hnext := h.leads_step_of_not_isStale hj hstale
      rw [step_of_not_isStale hj hstale] at hnext ⊢
      refine ⟨h.wellFormed.withTicket hstale, fun hnone => ?_, fun k hk => ?_⟩
      · cases hnone
      · cases hk
        exact ⟨_, hnext⟩

theorem run_append (schedule schedule' : List ι) :
    run uri updates (schedule ++ schedule') =
      schedule'.foldl (step uri updates) (run uri updates schedule) :=
  List.foldl_append

/-- Every schedule leaves the updates consistent. -/
theorem consistent_run (uri : String) (updates : ι → Update) (schedule : List ι) :
    Consistent uri updates (run uri updates schedule) := by
  induction schedule using List.reverseRecOn with
  | nil => exact consistent_start uri updates
  | append_singleton schedule i ih =>
    rw [run_append]
    exact ih.step i

/-! ### The version in sight -/

/-- A step never takes a version out of sight or puts an earlier one in its place. -/
theorem exists_get?_step (uri : String) (updates : ι → Update) (hs : s.tracker.WellFormed)
    (hset : s.tracker.get? k = some set) (j : ι) :
    ∃ set', (step uri updates s j).tracker.get? k = some set' ∧ set.version ≤ set'.version := by
  cases hj : s.phase j with
  | finished =>
    rw [step_of_finished hj]
    exact ⟨set, hset, le_rfl⟩
  | scanning ticket =>
    rw [step_of_scanning hj]
    exact hs.exists_get?_publish hset ticket _
  | waiting =>
    by_cases hstale : s.tracker.IsStale uri (updates j).version
    · rw [step_of_isStale hj hstale]
      exact ⟨set, hset, le_rfl⟩
    · rw [step_of_not_isStale hj hstale, get?_withTicket]
      exact ⟨set, hset, le_rfl⟩

/-- The version in sight never decreases while a schedule goes on. -/
theorem exists_get?_run_append (before after : List ι)
    (hset : (run uri updates before).tracker.get? k = some set) :
    ∃ set', (run uri updates (before ++ after)).tracker.get? k = some set' ∧
      set.version ≤ set'.version := by
  induction after using List.reverseRecOn with
  | nil => exact ⟨set, by rwa [List.append_nil], le_rfl⟩
  | append_singleton after i ih =>
    obtain ⟨set', hset', hle⟩ := ih
    obtain ⟨set'', hset'', hle'⟩ := exists_get?_step uri updates
      (consistent_run uri updates (before ++ after)).wellFormed hset' i
    rw [← List.append_assoc, run_append]
    exact ⟨set'', hset'', hle.trans hle'⟩

omit [DecidableEq ι] in
/-- When every update has finished, the result of the leading update is in sight, and no update
takes up a later version. -/
theorem Leads.get?_of_allFinished (h : Leads uri updates s i d) (hall : s.AllFinished) :
    s.tracker.get? uri = some (updates i).result ∧
      IsGreatest (Set.range fun j => (updates j).version) (updates i).version := by
  constructor
  · rcases h.progress with ⟨n, hphase, _⟩ | ⟨_, hpublished⟩
    · cases hphase.symm.trans (hall i)
    · rw [get?, h.document]
      exact hpublished
  · refine ⟨⟨i, rfl⟩, ?_⟩
    rintro _ ⟨j, rfl⟩
    exact h.greatest j (by simp [hall j])

/-- The last write wins, in whatever order the updates take their steps: the version in sight
never decreases, and when every update has finished, the diagnostics of the last update that was
handed a ticket are in sight under the greatest of all versions. -/
theorem get?_lastWriteWins [Nonempty ι] (uri : String) (updates : ι → Update) :
    (∀ (before after : List ι) (set : DiagnosticSet),
      (run uri updates before).tracker.get? uri = some set →
        ∃ set', (run uri updates (before ++ after)).tracker.get? uri = some set' ∧
          set.version ≤ set'.version) ∧
    ∀ schedule : List ι, (run uri updates schedule).AllFinished →
      ∃ set i, (run uri updates schedule).tracker.get? uri = some set ∧
        IsGreatest (Set.range fun j => (updates j).version) set.version ∧
        (run uri updates schedule).lastAccepted = some i ∧
        set.diagnostics = (updates i).diagnostics := by
  refine ⟨fun before after set hset => exists_get?_run_append before after hset,
    fun schedule hall => ?_⟩
  obtain ⟨j⟩ := ‹Nonempty ι›
  obtain ⟨i, d, hlast, hlead⟩ :=
    (consistent_run uri updates schedule).exists_leads (j := j) (by simp [hall j])
  obtain ⟨hget, hgreatest⟩ := hlead.get?_of_allFinished hall
  exact ⟨(updates i).result, i, hget, hgreatest, hlast, rfl⟩

/-- Updates to the versions 2, -1 and 2 of a document. -/
def threeUpdates : Fin 3 → Update :=
  ![⟨2, []⟩, ⟨-1, []⟩, ⟨2, [⟨.onLine 0 0 1, "", .warning, none, []⟩]⟩]

/-- The second update publishes first; then the third one begins while the first is scanning. -/
theorem get?_lastWriteWins_threeUpdates :
    (run "q" threeUpdates [1, 1]).tracker.get? "q" = some ⟨-1, []⟩ ∧
      (∃ set', (run "q" threeUpdates ([1, 1] ++ [0, 2, 0, 2])).tracker.get? "q" = some set' ∧
        -1 ≤ set'.version) ∧
      (run "q" threeUpdates [1, 1, 0, 2, 0, 2]).AllFinished ∧
      ∃ set i, (run "q" threeUpdates [1, 1, 0, 2, 0, 2]).tracker.get? "q" = some set ∧
        IsGreatest (Set.range fun j => (threeUpdates j).version) set.version ∧
        (run "q" threeUpdates [1, 1, 0, 2, 0, 2]).lastAccepted = some i ∧
        set.diagnostics = (threeUpdates i).diagnostics := by
  have hfirst : (run "q" threeUpdates [1, 1]).tracker.get? "q" = some ⟨-1, []⟩ := by decide
  have hall : (run "q" threeUpdates [1, 1, 0, 2, 0, 2]).AllFinished := by
    unfold AllFinished
    decide
  have hwins := get?_lastWriteWins "q" threeUpdates
  exact ⟨hfirst, hwins.1 [1, 1] [0, 2, 0, 2] _ hfirst, hall, hwins.2 _ hall⟩

end Updates

end QueryAssist.Tracker
