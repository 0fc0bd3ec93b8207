import Mathlib.Data.List.Induction
import QueryAssist.Proofs.Diagnostic.Tracker

/-!
# Which tickets can publish

A tracker is used for any documents and in any order: scans begin, results are published, and
documents are closed. Tickets can be kept and tried again. What has happened to the documents is
written down as a list of events, and tells of every ticket whether its result would count.

## Main definitions

* `Tracker.Operation`, `Tracker.Event` — what is done with a tracker, and what comes of it
* `Tracker.History` — a tracker and the events that led to it
* `Tracker.current?` — the ticket handed out last for a document that has not been closed since
* `Tracker.IsOvertaken` — the document of a ticket was taken up again or closed before any result

## Main results

* `consistent_run` — what holds after any operations
* `publish_iff_current` — a result counts if its ticket has the version of the current one and has
  not been overtaken; so the current ticket can publish, and no other one if the versions differ
* `publish_of_not_current` — tickets that can publish although they are not the current ones
-/

namespace QueryAssist.Tracker

/-- What is done with a tracker. -/
inductive Operation where
  /-- A scan of a version of a document is to begin. -/
  | begin (uri : String) (version : Int)
  /-- The result of a scan is to be published. -/
  | publish (ticket : Ticket) (diagnostics : List Diagnostic)
  /-- A document is closed. -/
  | close (uri : String)

/-- What happens to a document. -/
inductive Event where
  /-- A ticket for it is handed out. -/
  | handedOut (ticket : Ticket)
  /-- The result of a ticket is published. -/
  | published (ticket : Ticket)
  /-- It is closed. -/
  | closed (uri : String)
deriving DecidableEq, Repr

namespace Event

/-- The document that something happens to. -/
def uri : Event → String
  | handedOut ticket => ticket.uri
  | published ticket => ticket.uri
  | closed uri => uri

/-- Whether a result is published. -/
def isPublication : Event → Bool
  | published _ => true
  | _ => false

end Event

/-- A tracker and the events that led to it, the latest one first. -/
structure History where
  /-- The tracker. -/
  tracker : Tracker := ∅
  /-- What has happened to documents. -/
  events : List Event := []

namespace History

/-- The history after one more operation. Only tickets that have been handed out can be
published; a version that is refused and a result that is dropped leave no trace. -/
def step (h : History) : Operation → History
  | .begin uri version =>
    match h.tracker.begin uri version with
    | (none, t) => { h with tracker := t }
    | (some ticket, t) => ⟨t, .handedOut ticket :: h.events⟩
  | .publish ticket diagnostics =>
    if .handedOut ticket ∈ h.events then
      match h.tracker.publish ticket diagnostics with
      | (false, t) => { h with tracker := t }
      | (true, t) => ⟨t, .published ticket :: h.events⟩
    else h
  | .close uri => ⟨h.tracker.close uri, .closed uri :: h.events⟩

/-- The history of operations on a tracker that begins empty. -/
def run (operations : List Operation) : History := operations.foldl step {}

end History

/-! ### What the events tell -/

variable {t : Tracker} {uri : String} {version : Int} {ticket latest : Ticket} {e : Event}
  {earlier events : List Event}

/-- The ticket that was handed out last for a document, if it has not been closed since. -/
def current? (uri : String) : List Event → Option Ticket
  | [] => none
  | .handedOut ticket :: earlier => if ticket.uri = uri then some ticket else current? uri earlier
  | .published _ :: earlier => current? uri earlier
  | .closed uri' :: earlier => if uri' = uri then none else current? uri earlier

/-- What happened first to the document of a ticket after the ticket had been handed out. -/
def next? (ticket : Ticket) : List Event → Option Event
  | [] => none
  | e :: earlier =>
    if e = .handedOut ticket then none
    else (next? ticket earlier).or (if e.uri = ticket.uri then some e else none)

/-- After a ticket had been handed out its document was taken up again, or closed, before any
result was published for it. -/
def IsOvertaken (ticket : Ticket) (events : List Event) : Prop :=
  ∃ e, next? ticket events = some e ∧ e.isPublication = false

theorem handedOut_mem_of_mem_published (h : .handedOut ticket ∈ .published latest :: events) :
    .handedOut ticket ∈ events := by simpa using h

theorem handedOut_mem_of_mem_closed (h : .handedOut ticket ∈ .closed uri :: events) :
    .handedOut ticket ∈ events := by simpa using h

theorem next?_cons_of_ne (h : e ≠ .handedOut ticket) :
    next? ticket (e :: earlier) =
      (next? ticket earlier).or (if e.uri = ticket.uri then some e else none) := if_neg h

/-- What happens to other documents is not what happens next to the document of a ticket. -/
theorem next?_cons_of_uri_ne (h : e.uri ≠ ticket.uri) :
    next? ticket (e :: earlier) = next? ticket earlier := by
  have hne : e ≠ .handedOut ticket := by
    rintro rfl
    exact h rfl
  rw [next?_cons_of_ne hne, if_neg h, Option.or_none]

/-- What happens to other documents does not change the current ticket of a document. -/
theorem current?_cons_of_uri_ne (h : e.uri ≠ uri) :
    current? uri (e :: earlier) = current? uri earlier := by
  cases e with
  | handedOut ticket => exact if_neg h
  | published ticket => rfl
  | closed uri' => exact if_neg h

/-- The current ticket was handed out last, or it was the current one before and then its document
was neither taken up again nor closed. -/
theorem current?_cons_eq_some_iff :
    current? uri (e :: earlier) = some ticket ↔
      (e = .handedOut ticket ∧ ticket.uri = uri) ∨
        (current? uri earlier = some ticket ∧ (e.uri = uri → e.isPublication = true)) := by
  by_cases huri : e.uri = uri
  · cases e with
    | handedOut ticket' =>
      have hcurrent : current? uri (.handedOut ticket' :: earlier) = some ticket' := if_pos huri
      rw [hcurrent]
      constructor
      · rintro ⟨⟩
        exact Or.inl ⟨rfl, huri⟩
      · rintro (⟨heq, -⟩ | ⟨-, hkind⟩)
        · cases heq
          rfl
        · cases hkind huri
    | published ticket' => simp [current?, Event.isPublication]
    | closed uri' =>
      have hcurrent : current? uri (.closed uri' :: earlier) = none := if_pos huri
      simp [hcurrent, huri, Event.isPublication]
  · rw [current?_cons_of_uri_ne huri]
    constructor
    · intro h
      exact Or.inr ⟨h, fun heq => (huri heq).elim⟩
    · rintro (⟨rfl, heq⟩ | ⟨h, -⟩)
      · exact (huri heq).elim
      · exact h

theorem uri_of_current? (h : current? uri events = some ticket) : ticket.uri = uri := by
  induction events with
  | nil => cases h
  | cons e earlier ih =>
    rcases current?_cons_eq_some_iff.mp h with ⟨-, huri⟩ | ⟨h, -⟩
    · exact huri
    · exact ih h

theorem handedOut_mem_of_current? (h : current? uri events = some ticket) :
    .handedOut ticket ∈ events := by
  induction events with
  | nil => cases h
  | cons e earlier ih =>
    rcases current?_cons_eq_some_iff.mp h with ⟨rfl, -⟩ | ⟨h, -⟩
    · exact List.mem_cons_self
    · exact List.mem_cons_of_mem _ (ih h)

/-- A ticket whose document nothing has happened to since is the current one. -/
theorem current?_of_next?_eq_none (hmem : .handedOut ticket ∈ events)
    (hnext : next? ticket events = none) : current? ticket.uri events = some ticket := by
  induction events with
  | nil => cases hmem
  | cons e earlier ih =>
    rw [current?_cons_eq_some_iff]
    by_cases he : e = .handedOut ticket
    · exact Or.inl ⟨he, rfl⟩
    · rw [next?_cons_of_ne he, Option.or_eq_none_iff] at hnext
      have hmem' := (List.mem_cons.mp hmem).resolve_left (Ne.symm he)
      refine Or.inr ⟨ih hmem' hnext.1, fun huri => ?_⟩
      rw [if_pos huri] at hnext
      cases hnext.2

/-- The current ticket has not been overtaken. -/
theorem not_isOvertaken_of_current? (h : current? uri events = some ticket) :
    ¬ IsOvertaken ticket events := by
  rintro ⟨e', hnext, hkind⟩
  induction events with
  | nil => cases h
  | cons e earlier ih =>
    by_cases he : e = .handedOut ticket
    · rw [next?, if_pos he] at hnext
      cases hnext
    obtain ⟨hbefore, hpublication⟩ :=
      (current?_cons_eq_some_iff.mp h).resolve_left fun hlast => he hlast.1
    rw [next?_cons_of_ne he, Option.or_eq_some_iff, uri_of_current? h] at hnext
    rcases hnext with hnext | ⟨-, hnext⟩
    · exact ih hbefore hnext
    · split at hnext
      · rename_i huri
        cases hnext
        exact Bool.false_ne_true (hkind.symm.trans (hpublication huri))
      · cases hnext

/-! ### What holds after any operations -/

/-- What the events tell about a document. Without a current ticket nothing is known about it.
Otherwise the version of that ticket is the one taken up last, and its scan is going on as long as
nothing has happened to the document. -/
def Describes (events : List Event) (uri : String) (d? : Option Document) : Prop :=
  match current? uri events with
  | none => d? = none
  | some ticket => ∃ d, d? = some d ∧ d.latestVersion = ticket.version ∧
      d.inFlight = if next? ticket events = none then some ticket.number else none

/-- What happens to other documents does not change what is told about a document. -/
theorem Describes.cons_of_uri_ne {d? : Option Document} (h : Describes events uri d?)
    (hne : e.uri ≠ uri) : Describes (e :: events) uri d? := by
  rw [Describes, current?_cons_of_uri_ne hne]
  cases hcurrent : current? uri events with
  | none => simpa only [Describes, hcurrent] using h
  | some ticket =>
    simp only [Describes, hcurrent] at h
    simpa only [next?_cons_of_uri_ne (uri_of_current? hcurrent ▸ hne)] using h

/-- What the events that led to a tracker tell about it. -/
structure Consistent (t : Tracker) (events : List Event) : Prop where
  /-- The tracker is well-formed. -/
  wellFormed : t.WellFormed
  /-- Tickets are numbered in the order in which they are handed out. -/
  number_lt : ∀ {ticket}, .handedOut ticket ∈ events → ticket.number < t.issued
  /-- No two tickets have the same number. -/
  number_inj : ∀ {ticket ticket'}, .handedOut ticket ∈ events → .handedOut ticket' ∈ events →
    ticket.number = ticket'.number → ticket = ticket'
  /-- What is known about documents is what the events tell. -/
  describes : ∀ uri, Describes events uri (t.document? uri)
  /-- The tickets that have been cancelled are those that have been overtaken. -/
  isCancelled_iff : ∀ {ticket}, .handedOut ticket ∈ events →
    (t.isCancelled ticket.number = true ↔ IsOvertaken ticket events)

theorem consistent_empty : Consistent ∅ [] where
  wellFormed := wellFormed_empty
  number_lt h := by cases h
  number_inj h := by cases h
  describes _ := document?_empty
  isCancelled_iff h := by cases h

/-- Nothing is known about a document without a current ticket. -/
theorem Consistent.document?_eq_none (h : Consistent t events)
    (hcurrent : current? uri events = none) : t.document? uri = none := by
  simpa only [Describes, hcurrent] using h.describes uri

/-- The version of the current ticket is the one taken up last, and its scan is going on as long
as nothing has happened to the document. -/
theorem Consistent.exists_document? (h : Consistent t events)
    (hcurrent : current? uri events = some ticket) :
    ∃ d, t.document? uri = some d ∧ d.latestVersion = ticket.version ∧
      d.inFlight = if next? ticket events = none then some ticket.number else none := by
  simpa only [Describes, hcurrent] using h.describes uri

/-- The scan that is going on for a document is that of a ticket for it to which nothing has
happened since. -/
theorem Consistent.inFlight_eq_some_iff (h : Consistent t events)
    (hmem : .handedOut ticket ∈ events) :
    (t.document? uri).bind (·.inFlight) = some ticket.number ↔
      ticket.uri = uri ∧ next? ticket events = none := by
  constructor
  · intro hflight
    obtain ⟨d, hd, hflight⟩ := Option.bind_eq_some_iff.mp hflight
    cases hcurrent : current? uri events with
    | none => cases hd.symm.trans (h.document?_eq_none hcurrent)
    | some latest =>
      obtain ⟨d', hd', -, hflight'⟩ := h.exists_document? hcurrent
      obtain rfl : d' = d := Option.some.inj (hd'.symm.trans hd)
      rw [hflight] at hflight'
      split at hflight'
      · rename_i hnext
        obtain rfl : ticket = latest := h.number_inj hmem (handedOut_mem_of_current? hcurrent)
          (Option.some.inj hflight')
        exact ⟨uri_of_current? hcurrent, hnext⟩
      · cases hflight'
  · rintro ⟨rfl, hnext⟩
    obtain ⟨d, hd, -, hflight⟩ := h.exists_document? (current?_of_next?_eq_none hmem hnext)
    rw [hd, Option.bind_some, hflight, if_pos hnext]

/-- What takes a document up again or closes it overtakes the ticket of the scan that is going
on. -/
theorem Consistent.isOvertaken_cons_iff (h : Consistent t events)
    (hmem : .handedOut ticket ∈ events) (hne : e ≠ .handedOut ticket)
    (hkind : e.isPublication = false) :
    IsOvertaken ticket (e :: events) ↔
      t.isCancelled ticket.number = true ∨
        (t.document? e.uri).bind (·.inFlight) = some ticket.number := by
  rw [h.isCancelled_iff hmem, h.inFlight_eq_some_iff hmem, IsOvertaken, IsOvertaken,
    next?_cons_of_ne hne]
  cases hnext : next? ticket events with
  | none =>
    by_cases huri : e.uri = ticket.uri
    · simp [huri, hkind]
    · simp [huri, Ne.symm huri]
  | some e' => simp

/-- Handing out a ticket keeps the events consistent with the tracker. -/
theorem Consistent.withTicket (h : Consistent t events) (hstale : ¬ t.IsStale uri version) :
    Consistent (t.withTicket uri version) (.handedOut ⟨t.issued, uri, version⟩ :: events) where
  wellFormed := h.wellFormed.withTicket hstale
  number_lt hmem := by
    rw [issued_withTicket]
    rcases List.mem_cons.mp hmem with heq | hmem
    · cases heq
      exact Nat.lt_succ_self _
    · exact (h.number_lt hmem).trans (Nat.lt_succ_self _)
  number_inj hmem hmem' hnumber := by
    rcases List.mem_cons.mp hmem with heq | hmem <;> rcases List.mem_cons.mp hmem' with heq' | hmem'
    · cases heq
      cases heq'
      rfl
    -- the number of the new ticket is greater than all others
    · cases heq
      exact ((h.number_lt hmem').ne hnumber.symm).elim
    · cases heq'
      exact ((h.number_lt hmem).ne hnumber).elim
    · exact h.number_inj hmem hmem' hnumber
  describes k := by
    rw [document?_withTicket]
    rcases eq_or_ne uri k with rfl | hk
    · simp [Describes, current?, next?]
    · rw [if_neg hk.symm]
      exact (h.describes k).cons_of_uri_ne hk
  isCancelled_iff {ticket} hmem := by
    rw [isCancelled_withTicket]
    by_cases heq : Event.handedOut ⟨t.issued, uri, version⟩ = .handedOut ticket
    · -- the new ticket has not been cancelled, nor is its scan an earlier one
      cases heq
      have hlive := h.wellFormed.isCancelled_issued
      have hflight : (t.document? uri).bind (·.inFlight) ≠ some t.issued := by
        intro hflight
        obtain ⟨d, hd, hflight⟩ := Option.bind_eq_some_iff.mp hflight
        exact (h.wellFormed.inFlight_lt hd hflight).false
      simp [hlive, hflight, IsOvertaken, next?]
    · have hmem := (List.mem_cons.mp hmem).resolve_left (Ne.symm heq)
      exact (h.isOvertaken_cons_iff hmem heq rfl).symm

/-- Publishing a result keeps the events consistent with the tracker. -/
theorem Consistent.publish (h : Consistent t events) (haccepts : t.Accepts ticket)
    (diagnostics : List Diagnostic) :
    Consistent (t.setDocument ticket.uri
        ⟨ticket.version, none, some ⟨ticket.version, diagnostics⟩⟩)
      (.published ticket :: events) where
  wellFormed := by
    have hpublish := h.wellFormed.publish ticket diagnostics
    rwa [publish_of_accepts haccepts] at hpublish
  number_lt hmem := h.number_lt (handedOut_mem_of_mem_published hmem)
  number_inj hmem hmem' :=
    h.number_inj (handedOut_mem_of_mem_published hmem) (handedOut_mem_of_mem_published hmem')
  describes k := by
    rw [document?_setDocument]
    rcases eq_or_ne ticket.uri k with rfl | hk
    · -- the version that is published is the one taken up last
      obtain ⟨d, hd, -, hversion⟩ := haccepts
      cases hcurrent : current? ticket.uri events with
      | none => cases hd.symm.trans (h.document?_eq_none hcurrent)
      | some latest =>
        obtain ⟨d', hd', hversion', -⟩ := h.exists_document? hcurrent
        obtain rfl : d' = d := Option.some.inj (hd'.symm.trans hd)
        have huri : latest.uri = ticket.uri := uri_of_current? hcurrent
        simp [Describes, current?, hcurrent, next?, Event.uri, huri, hversion.trans hversion']
    · rw [if_neg hk.symm]
      exact (h.describes k).cons_of_uri_ne hk
  isCancelled_iff {ticket'} hmem := by
    rw [isCancelled_setDocument, h.isCancelled_iff (handedOut_mem_of_mem_published hmem),
      IsOvertaken, IsOvertaken, next?, if_neg nofun]
    cases hnext : next? ticket' events with
    | none =>
      by_cases huri : ticket.uri = ticket'.uri <;> simp [Event.uri, huri, Event.isPublication]
    | some e' => simp

/-- Closing a document keeps the events consistent with the tracker. -/
theorem Consistent.close (h : Consistent t events) (uri : String) :
    Consistent (t.close uri) (.closed uri :: events) where
  wellFormed := h.wellFormed.close uri
  number_lt hmem := by
    rw [issued_close]
    exact h.number_lt (handedOut_mem_of_mem_closed hmem)
  number_inj hmem hmem' :=
    h.number_inj (handedOut_mem_of_mem_closed hmem) (handedOut_mem_of_mem_closed hmem')
  describes k := by
    rw [document?_close]
    rcases eq_or_ne uri k with rfl | hk
    · simp [Describes, current?]
    · rw [if_neg hk.symm]
      exact (h.describes k).cons_of_uri_ne hk
  isCancelled_iff {ticket} hmem := by
    have hne : Event.closed uri ≠ .handedOut ticket := nofun
    rw [isCancelled_close]
    exact (h.isOvertaken_cons_iff (handedOut_mem_of_mem_closed hmem) hne rfl).symm

/-- A ticket is accepted if it has the version of the current ticket and has not been overtaken. -/
theorem Consistent.accepts_iff (h : Consistent t events) (hmem : .handedOut ticket ∈ events) :
    t.Accepts ticket ↔
      ∃ latest, current? ticket.uri events = some latest ∧ latest.version = ticket.version ∧
        ¬ IsOvertaken ticket events := by
  rw [← h.isCancelled_iff hmem, Bool.not_eq_true]
  constructor
  · rintro ⟨d, hd, hlive, hversion⟩
    cases hcurrent : current? ticket.uri events with
    | none => cases hd.symm.trans (h.document?_eq_none hcurrent)
    | some latest =>
      obtain ⟨d', hd', hversion', -⟩ := h.exists_document? hcurrent
      obtain rfl : d' = d := Option.some.inj (hd'.symm.trans hd)
      exact ⟨latest, rfl, hversion'.symm.trans hversion.symm, hlive⟩
  · rintro ⟨latest, hcurrent, hversion, hlive⟩
    obtain ⟨d, hd, hversion', -⟩ := h.exists_document? hcurrent
    exact ⟨d, hd, hlive, hversion.symm.trans hversion'.symm⟩

namespace History

variable {h : History}

/-- Every operation keeps the events consistent with the tracker. -/
theorem consistent_step (hc : Consistent h.tracker h.events) (operation : Operation) :
    Consistent (h.step operation).tracker (h.step operation).events := by
  cases operation with
  | begin uri version =>
    by_cases hstale : h.tracker.IsStale uri version
    · simp only [step, begin_of_isStale hstale]
      exact hc
    · simp only [step, begin_of_not_isStale hstale]
      exact hc.withTicket hstale
  | publish ticket diagnostics =>
    rw [step]
    split
    · by_cases haccepts : h.tracker.Accepts ticket
      · simp only [publish_of_accepts haccepts]
        exact hc.publish haccepts diagnostics
      · simp only [publish_of_not_accepts haccepts]
        exact hc
    · exact hc
  | close uri => exact hc.close uri

/-- After any operations the events are consistent with the tracker. -/
theorem consistent_run (operations : List Operation) :
    Consistent (run operations).tracker (run operations).events := by
  induction operations using List.reverseRecOn with
  | nil => exact consistent_empty
  | append_singleton operations operation ih =>
    rw [run, List.foldl_append]
    exact consistent_step ih operation

/-! ### Tickets that can publish -/

/-- After any operations, publishing the result of a ticket succeeds exactly if the ticket has the
version of the current ticket for its document and has not been overtaken. So the current ticket
always can publish; and it is the only one for its document that can, if no other one has been
handed out for the same version. -/
theorem publish_iff_current (operations : List Operation) (ticket : Ticket)
    (hmem : .handedOut ticket ∈ (run operations).events) (diagnostics : List Diagnostic) :
    (((run operations).tracker.publish ticket diagnostics).1 = true ↔
      ∃ latest, current? ticket.uri (run operations).events = some latest ∧
        latest.version = ticket.version ∧ ¬ IsOvertaken ticket (run operations).events) ∧
    (current? ticket.uri (run operations).events = some ticket →
      ((run operations).tracker.publish ticket diagnostics).1 = true) ∧
    ((∀ other, .handedOut other ∈ (run operations).events → other.uri = ticket.uri →
        other.version = ticket.version → other = ticket) →
      (((run operations).tracker.publish ticket diagnostics).1 = true ↔
        current? ticket.uri (run operations).events = some ticket)) := by
  have haccepts := (consistent_run operations).accepts_iff hmem
  rw [publish_fst_iff_accepts, haccepts]
  have hsuffices : current? ticket.uri (run operations).events = some ticket →
      ∃ latest, current? ticket.uri (run operations).events = some latest ∧
        latest.version = ticket.version ∧ ¬ IsOvertaken ticket (run operations).events :=
    fun hcurrent => ⟨ticket, hcurrent, rfl, not_isOvertaken_of_current? hcurrent⟩
  refine ⟨Iff.rfl, hsuffices, fun hdiffer => ⟨?_, hsuffices⟩⟩
  rintro ⟨latest, hcurrent, hversion, -⟩
  obtain rfl := hdiffer latest (handedOut_mem_of_current? hcurrent) (uri_of_current? hcurrent)
    hversion
  exact hcurrent

/-- Two versions of a document, an earlier one that comes too late, and another document that is
closed. -/
def sixOperations : List Operation :=
  [.begin "q" 1, .publish ⟨0, "q", 1⟩ [], .begin "q" 2, .begin "q" 0, .begin "r" 2, .close "r"]

theorem publish_iff_current_sixOperations :
    (.handedOut ⟨1, "q", 2⟩ ∈ (run sixOperations).events ∧
      (∀ other, .handedOut other ∈ (run sixOperations).events → other.uri = "q" →
        other.version = 2 → other = ⟨1, "q", 2⟩) ∧
      ((run sixOperations).tracker.publish ⟨1, "q", 2⟩ []).1 = true) ∧
    .handedOut ⟨2, "r", 2⟩ ∈ (run sixOperations).events ∧
      ((run sixOperations).tracker.publish ⟨2, "r", 2⟩ []).1 = false := by
  have hevents : (run sixOperations).events =
      [.closed "r", .handedOut ⟨2, "r", 2⟩, .handedOut ⟨1, "q", 2⟩, .published ⟨0, "q", 1⟩,
        .handedOut ⟨0, "q", 1⟩] := by decide +kernel
  have hlatest : .handedOut ⟨1, "q", 2⟩ ∈ (run sixOperations).events := by simp [hevents]
  have hclosed : .handedOut ⟨2, "r", 2⟩ ∈ (run sixOperations).events := by simp [hevents]
  have hdiffer : ∀ other, .handedOut other ∈ (run sixOperations).events → other.uri = "q" →
      other.version = 2 → other = ⟨1, "q", 2⟩ := by
    intro other hmem huri hversion
    rw [hevents] at hmem
    rcases other with ⟨number, uri, version⟩
    simp_all
  refine ⟨⟨hlatest, hdiffer, ?_⟩, hclosed, ?_⟩
  · rw [(publish_iff_current sixOperations _ hlatest []).2.2 hdiffer]
    simp [hevents, current?]
  · rw [← Bool.not_eq_true, (publish_iff_current sixOperations _ hclosed []).1]
    simp [hevents, current?]

/-- A ticket can publish although another one was handed out for the same version after it, or
although its document was closed and taken up again, if its result had been published before. -/
theorem publish_of_not_current :
    let again := run [.begin "q" 1, .publish ⟨0, "q", 1⟩ [], .begin "q" 1]
    let reopened := run [.begin "q" 1, .publish ⟨0, "q", 1⟩ [], .close "q", .begin "q" 1]
    (.handedOut ⟨0, "q", 1⟩ ∈ again.events ∧ current? "q" again.events = some ⟨1, "q", 1⟩ ∧
      (again.tracker.publish ⟨0, "q", 1⟩ []).1 = true) ∧
    .handedOut ⟨0, "q", 1⟩ ∈ reopened.events ∧ current? "q" reopened.events = some ⟨1, "q", 1⟩ ∧
      (reopened.tracker.publish ⟨0, "q", 1⟩ []).1 = true := by
  decide +kernel

end History

end QueryAssist.Tracker
